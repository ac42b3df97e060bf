import CoEdit.Engine.Views
import CoEdit.Proofs.Engine.Events
import CoEdit.Proofs.Engine.Places
import CoEdit.Proofs.Session.Compaction
import CoEdit.Proofs.Table

/-!
# The Limit on Histories Is Not Seen

An engine may limit how many changes its sessions keep one by one. Nothing that callers, receivers
or recordings get depends on it: fold all changes of all sessions and forget about the limit, and
every command is still answered alike and leads to an engine that is the same up to folding.

## Main definitions

* `Engine.folded`: the engine with all changes of its sessions folded, and without a limit.
* `Engine.SameView`: two engines that look the same to everybody.

## Main results

* `departFrom_folded`, `sweep_folded`, …: the parts of the operations take no notice of folding.
* `execute_folded`: nor do the commands.
* `limit_unseen`: runs that differ in the limit alone look the same, and the limit is kept.
-/

namespace CoEdit

open CoEdit.Time (Instant)

namespace Engine

variable {config : Config} {e e' : Engine} {sessionId userId : String} {now : Clock}

/-- The engine with all changes of its sessions folded into their base texts, and without a limit on
histories. -/
def folded (e : Engine) : Engine :=
  { e with
    config := { e.config with historyLimit := none }
    sessions := e.sessions.map Session.folded }

/-- What comes of an operation, with everything folded. -/
def thenFolded {α : Type} (r : α × Engine) : α × Engine :=
  (r.1, r.2.folded)

theorem folded_folded (e : Engine) : e.folded.folded = e.folded :=
  congrArg (fun sessions => { e.folded with sessions }) (Table.map_map Session.folded e.sessions)

theorem get?_folded (e : Engine) (sessionId : String) :
    e.folded.sessions.get? sessionId = (e.sessions.get? sessionId).map Session.folded :=
  Table.get?_map _ _

/-! ### The parts of an operation -/

theorem putSession_folded (e : Engine) (s : Session) :
    e.folded.putSession s.folded = (e.putSession s).folded :=
  congrArg (fun sessions => { e.folded with sessions }) (Table.map_put e.sessions s.id s).symm

theorem reordered_folded (e : Engine) (rank : String → Nat) :
    e.folded.reordered rank = (e.reordered rank).folded :=
  congrArg (fun sessions => { e.folded with sessions }) (Table.map_ranked rank e.sessions).symm

theorem requireSession_folded (e : Engine) (sessionId : String) :
    e.folded.requireSession sessionId = Session.folded <$> e.requireSession sessionId := by
  rw [requireSession, requireSession, get?_folded]
  cases e.sessions.get? sessionId <;> rfl

theorem enroll_folded (e : Engine) (sessionId : String) (s : Session) (userId : String) :
    e.folded.enroll sessionId s.folded userId = (e.enroll sessionId s userId).folded := by
  rw [enroll, putSession_folded]
  rfl

theorem dismiss_folded (e : Engine) (sessionId : String) (s : Session) (userId : String) :
    e.folded.dismiss sessionId s.folded userId = (e.dismiss sessionId s userId).folded := by
  rw [dismiss, putSession_folded]
  rfl

theorem tell_folded (e : Engine) (sessionId : String) (facts : List Fact)
    (notices : List (Notice × Option String)) (stamps : Stamps) :
    e.folded.tell sessionId facts notices stamps =
      (e.tell sessionId facts notices stamps).folded := rfl

theorem departFrom_folded (e : Engine) (sessionId userId : String) (now : Clock) :
    e.folded.departFrom sessionId userId now = (e.departFrom sessionId userId now).folded := by
  have hget := get?_folded e sessionId
  cases hs : e.sessions.get? sessionId with
  | none =>
      rw [hs] at hget
      rw [departFrom, departFrom, hget, hs]
      rfl
  | some s =>
      rw [hs] at hget
      have hfolded := s.depart_folded userId (now.acting sessionId)
      cases hd : s.depart userId (now.acting sessionId) with
      | error error =>
          rw [hd] at hfolded
          have hrefused : s.folded.depart userId (now.acting sessionId) = .error error := hfolded
          rw [departFrom, departFrom, hget, hs]
          simp only [hd, hrefused, Option.map_some]
      | ok result =>
          rw [hd] at hfolded
          rw [departFrom_eq hs hd, departFrom_eq hget hfolded, dismiss_folded, tell_folded]
          rfl

theorem vacate_folded (e : Engine) (userId : String) (now : Clock) :
    e.folded.vacate userId now = (e.vacate userId now).folded := by
  have hwhere : e.folded.whereabouts = e.whereabouts := rfl
  rw [vacate, vacate, hwhere]
  cases e.whereabouts.get? userId with
  | none => rfl
  | some previous => exact departFrom_folded (e.displace userId) previous userId now

theorem install_folded (e : Engine) (s : Session) (hostName : String) (now : Clock) :
    e.folded.install s.folded hostName now = (e.install s hostName now).folded := by
  have henroll := enroll_folded e s.id s s.hostId
  exact congrArg (fun e : Engine => { (e.tell s.id [.created s.hostId hostName s.title s.language
    s.content] [] (now.promptStamps s.id)).place s.hostId s.id with
      sessionsMade := e.sessionsMade + 1 }) henroll

theorem welcome_folded (e : Engine) (sessionId userId : String) (admission : Admission)
    (s : Session) (now : Clock) :
    e.folded.welcome sessionId userId admission s.folded now =
      (e.welcome sessionId userId admission s now).folded := by
  rw [welcome, enroll_folded]
  rfl

theorem leaveBehind_folded (e : Engine) (previous : Option String) (sessionId userId : String)
    (now : Clock) :
    e.folded.leaveBehind previous sessionId userId now =
      (e.leaveBehind previous sessionId userId now).folded := by
  cases previous with
  | none => rfl
  | some key =>
      by_cases hkey : key = sessionId
      · rw [leaveBehind, leaveBehind, if_pos hkey, if_pos hkey]
      · rw [leaveBehind_of_ne hkey, leaveBehind_of_ne hkey, departFrom_folded]

theorem removeSession_folded (e : Engine) (sessionId : String) :
    e.folded.removeSession sessionId = (e.removeSession sessionId).folded :=
  congrArg (fun sessions => { e.folded with
    sessions
    gateway := e.gateway.dropSession sessionId }) (Table.map_erase e.sessions sessionId).symm

theorem endIdle_folded (asOf : Instant) (now : Clock) (e : Engine) (sessionId : String) :
    endIdle asOf now e.folded sessionId = (endIdle asOf now e sessionId).folded := by
  have hget := get?_folded e sessionId
  cases hs : e.sessions.get? sessionId with
  | none =>
      rw [hs] at hget
      rw [endIdle_of_none hs, endIdle_of_none hget]
  | some s =>
      rw [hs] at hget
      rw [endIdle_eq hs, endIdle_eq hget, Session.close_folded]
      exact congrArg (Engine.tell · sessionId [.ended .idle] [(.sessionEnded .idle, none)]
        (now.stamps sessionId))
        (putSession_folded e (s.close asOf).2)

/-- What takes no notice of folding does not do so for one session after the other. -/
theorem foldl_folded {f : Engine → String → Engine}
    (hf : ∀ e key, f e.folded key = (f e key).folded) (keys : List String) (e : Engine) :
    keys.foldl f e.folded = (keys.foldl f e).folded := by
  induction keys generalizing e with
  | nil => rfl
  | cons key keys ih => rw [List.foldl_cons, hf, ih, List.foldl_cons]

/-- The sessions that pass a test are the same, if the test takes no notice of folding. -/
theorem filter_values_folded (e : Engine) {test : Session → Bool}
    (htest : ∀ s : Session, test s.folded = test s) :
    (e.folded.sessions.values.filter test).map Session.id =
      (e.sessions.values.filter test).map Session.id :=
  Table.map_filter_values_map htest fun _ => rfl

theorem sweep_folded (e : Engine) (asOf : Instant) (now : Clock) :
    e.folded.sweep asOf now = thenFolded (e.sweep asOf now) := by
  have habandoned : e.folded.abandoned asOf = e.abandoned asOf :=
    filter_values_folded e fun _ => rfl
  have hexpired : e.folded.expired asOf = e.expired asOf :=
    filter_values_folded e fun _ => rfl
  have hswept : e.folded.swept asOf now = (e.swept asOf now).folded := by
    rw [swept, swept, habandoned, hexpired, foldl_folded (endIdle_folded asOf now),
      foldl_folded removeSession_folded]
  rw [sweep_eq, sweep_eq, habandoned, hexpired, hswept]
  rfl

/-! ### Commands -/

theorem create_folded (e : Engine) (hostId hostName assignmentId : String)
    (options : SessionOptions) (now : Clock) :
    e.folded.create hostId hostName assignmentId options now =
      thenFolded <$> e.create hostId hostName assignmentId options now := by
  rw [create_eq, create_eq, map_bind]
  refine bind_congr fun _ => ?_
  rw [map_bind]
  refine bind_congr fun settings => ?_
  rw [vacate_folded]
  have hinstall := install_folded (e.vacate hostId now) (Session.start e.freshSessionId hostId
    (Text.orElseIfBlank hostName hostId) assignmentId settings (now.acting e.freshSessionId))
    (Text.orElseIfBlank hostName hostId) now
  exact congrArg (fun e => Except.ok (_, e)) hinstall

theorem join_folded (e : Engine) (sessionId userId userName : String) (role : Role)
    (now : Clock) :
    e.folded.join sessionId userId userName role now =
      thenFolded <$> e.join sessionId userId userName role now := by
  rw [join_eq, join_eq, map_bind]
  refine bind_congr fun _ => ?_
  rw [map_bind]
  refine bind_congr fun _ => ?_
  rw [map_bind, requireSession_folded, bind_map_left]
  refine bind_congr fun s => ?_
  rw [map_bind, Session.join_folded, bind_map_left]
  refine bind_congr fun ⟨admission, s'⟩ => ?_
  have hwelcome := welcome_folded e sessionId userId admission s' now
  have hleave := leaveBehind_folded (e.welcome sessionId userId admission s' now)
    (e.whereabouts.get? userId) sessionId userId now
  rw [← hwelcome] at hleave
  exact congrArg (fun e => Except.ok (s'.snapshot, e)) hleave

theorem leave_folded (e : Engine) (userId : String) (now : Clock) :
    e.folded.leave userId now = thenFolded <$> e.leave userId now := by
  rw [leave_eq, leave_eq, map_bind]
  refine bind_congr fun _ => ?_
  rw [vacate_folded]
  rfl

/-- Whether a history has been limited is not known any more once everything is folded. -/
theorem folded_limitHistory (config : Config) (s : Session) :
    (limitHistory config s).folded = s.folded := by
  rw [limitHistory]
  cases config.historyLimit with
  | none => rfl
  | some limit => exact s.folded_compact limit

/-- The engine once a session has taken a change: the new state is stored, and the change recorded
and announced to all but its author. -/
def takeChange (e : Engine) (sessionId authorId : String) (c : Change) (s : Session)
    (now : Clock) : Engine :=
  { (e.putSession s).tell sessionId [.changed c] [(.codeChange c s.content, some authorId)]
      (now.promptStamps sessionId) with
    changesMade := e.changesMade + 1 }

theorem takeChange_folded (e : Engine) (sessionId authorId : String) (c : Change) (s : Session)
    (now : Clock) :
    e.folded.takeChange sessionId authorId c s.folded now =
      (e.takeChange sessionId authorId c s now).folded :=
  congrArg (fun e' : Engine => { e'.tell sessionId [.changed c]
    [(.codeChange c s.content, some authorId)] (now.promptStamps sessionId) with
      changesMade := e.changesMade + 1 })
    (putSession_folded e s)

/-- What a change comes to once everything is folded: the limit has no part in it. -/
theorem takeChange_limitHistory (e : Engine) (sessionId authorId : String) (c : Change)
    (s : Session) (now : Clock) :
    (e.takeChange sessionId authorId c (limitHistory e.config s) now).folded =
      e.folded.takeChange sessionId authorId c s.folded now := by
  rw [← takeChange_folded, folded_limitHistory]

/-- A change makes a history longer, which has to be folded once more. -/
theorem change_folded (e : Engine) (sessionId authorId : String) (op : Operation) (now : Clock) :
    thenFolded <$> e.folded.change sessionId authorId op now =
      thenFolded <$> e.change sessionId authorId op now := by
  -- On either side, the folded outcome is read off the folded outcome of the edit.
  have hone : ∀ (e : Engine) (s : Session),
      thenFolded <$> (s.edit e.freshChangeId authorId op (now.acting sessionId) >>= fun out =>
        pure (out.1, e.takeChange sessionId authorId out.1 (limitHistory e.config out.2) now)) =
      Session.thenFolded <$> s.edit e.freshChangeId authorId op (now.acting sessionId) >>=
        fun out =>
          Except.ok (out.1, e.folded.takeChange sessionId authorId out.1 out.2 now) := by
    intro e s
    rw [map_bind, bind_map_left]
    refine bind_congr fun ⟨c, s'⟩ => ?_
    exact congrArg (fun e => Except.ok (c, e))
      (takeChange_limitHistory e sessionId authorId c s' now)
  rw [change_eq, change_eq]
  simp only [map_bind, requireSession_folded, bind_map_left]
  refine bind_congr fun _ => bind_congr fun _ => bind_congr fun s => ?_
  by_cases hwhere : e.whereabouts.get? authorId = some sessionId
  · rw [if_pos hwhere]
    refine (congrArg _ (if_pos hwhere)).trans ?_
    have hleft := hone e.folded s.folded
    have hedit := s.edit_folded e.folded.freshChangeId authorId op (now.acting sessionId)
    rw [folded_folded, hedit] at hleft
    exact hleft.trans (hone e s).symm
  · rw [if_neg hwhere]
    exact congrArg _ (if_neg hwhere)

theorem cursor_folded (e : Engine) (userId : String) (position : Nat) (now : Clock) :
    e.folded.cursor userId position now = thenFolded <$> e.cursor userId position now := by
  have hwhere : e.folded.whereabouts = e.whereabouts := rfl
  rw [cursor_eq, cursor_eq, map_bind, hwhere]
  refine bind_congr fun _ => ?_
  cases e.whereabouts.get? userId with
  | none => rfl
  | some sessionId =>
      dsimp only
      rw [map_bind, requireSession_folded, bind_map_left]
      refine bind_congr fun s => ?_
      rw [map_bind, Session.moveCursor_folded, bind_map_left]
      refine bind_congr fun ⟨entry, s'⟩ => ?_
      exact congrArg (fun e => Except.ok ((), Engine.tell e sessionId [] _ (now.stamps sessionId)))
        (putSession_folded e s')

theorem assist_folded (e : Engine) (sessionId userId : String) (message : Option String)
    (now : Clock) :
    e.folded.assist sessionId userId message now =
      thenFolded <$> e.assist sessionId userId message now := by
  rw [assist_eq, assist_eq, map_bind]
  refine bind_congr fun _ => ?_
  rw [map_bind]
  refine bind_congr fun _ => ?_
  rw [map_bind, requireSession_folded, bind_map_left]
  refine bind_congr fun s => ?_
  rw [map_bind, Session.requestHelp_folded, bind_map_left]
  refine bind_congr fun ⟨entry, s'⟩ => ?_
  exact congrArg (fun e => Except.ok ((), Engine.tell e sessionId _ _ (now.stamps sessionId)))
    (putSession_folded e s')

theorem thenFolded_thenFolded {α : Type} (x : Except Error (α × Engine)) :
    thenFolded <$> thenFolded <$> x = thenFolded <$> x := by
  cases x with
  | error => rfl
  | ok r => exact congrArg (fun e => Except.ok (r.1, e)) r.2.folded_folded

/-- Operations that come to the same come to the same as commands, which answer in one form. -/
theorem thenFolded_map {α : Type} (answer : α → Answer) {x y : Except Error (α × Engine)}
    (h : thenFolded <$> x = thenFolded <$> y) :
    thenFolded <$> x.map (fun r => (answer r.1, r.2)) =
      thenFolded <$> y.map (fun r => (answer r.1, r.2)) := by
  have hcomm : ∀ z : Except Error (α × Engine),
      thenFolded <$> z.map (fun r => (answer r.1, r.2)) =
        (thenFolded <$> z).map fun r => (answer r.1, r.2) := by
    intro z
    cases z <;> rfl
  rw [hcomm, hcomm, h]

/-- **Commands take no notice of folding.** -/
theorem execute_folded (e : Engine) (now : Clock) (command : Command) :
    thenFolded <$> e.folded.execute now command = thenFolded <$> e.execute now command := by
  have hsame : ∀ {α : Type} (answer : α → Answer) {x y : Except Error (α × Engine)},
      x = thenFolded <$> y →
        thenFolded <$> x.map (fun r => (answer r.1, r.2)) =
          thenFolded <$> y.map (fun r => (answer r.1, r.2)) := by
    rintro α answer _ y rfl
    exact thenFolded_map answer (thenFolded_thenFolded y)
  cases command with
  | create hostId hostName assignmentId options =>
      exact hsame .session (create_folded e hostId hostName assignmentId options now)
  | join sessionId userId userName role =>
      exact hsame .session (join_folded e sessionId userId userName role now)
  | leave userId => exact hsame .flag (leave_folded e userId now)
  | change sessionId authorId op =>
      exact thenFolded_map .change (change_folded e sessionId authorId op now)
  | cursor userId position => exact hsame (fun _ => .done) (cursor_folded e userId position now)
  | assist sessionId userId message =>
      exact hsame (fun _ => .done) (assist_folded e sessionId userId message now)
  | connect userId line =>
      have hconnect := folded_folded { e with gateway := (e.gateway.connect userId line).2 }
      exact congrArg
        (fun t => Except.ok (Answer.mailbox (e.gateway.connect userId line).1, t)) hconnect
  | disconnect userId =>
      have hdisconnect := folded_folded { e with gateway := (e.gateway.disconnect userId).2 }
      exact congrArg
        (fun t => Except.ok (Answer.flag (e.gateway.disconnect userId).1, t)) hdisconnect
  | sweep asOf =>
      have hsweep : e.folded.sweep asOf now = thenFolded (e.sweep asOf now) :=
        sweep_folded e asOf now
      exact hsame (x := .ok (e.folded.sweep asOf now)) (y := .ok (e.sweep asOf now)) .report
        (congrArg Except.ok hsweep)

/-! ### Runs -/

theorem step_folded (e : Engine) (now : Clock) (command : Command) :
    thenFolded (e.folded.step now command) = thenFolded (e.step now command) := by
  have hexecute := execute_folded e now command
  rw [step, step]
  cases hleft : e.folded.execute now command with
  | error error =>
      cases hright : e.execute now command with
      | error error' =>
          rw [hleft, hright] at hexecute
          obtain rfl : error = error' := Except.error.inj hexecute
          exact congrArg (Prod.mk _) e.folded_folded
      | ok r =>
          rw [hleft, hright] at hexecute
          cases hexecute
  | ok r =>
      cases hright : e.execute now command with
      | error error =>
          rw [hleft, hright] at hexecute
          cases hexecute
      | ok r' =>
          rw [hleft, hright] at hexecute
          obtain ⟨hanswer, hengine⟩ := Prod.mk.inj (Except.ok.inj hexecute)
          exact congrArg₂ (fun answer e => (Except.ok answer, e)) hanswer hengine

/-- Whatever happens to an engine takes no notice of folding. -/
theorem meet_folded (e : Engine) (x : Event) : (e.folded.meet x).folded = (e.meet x).folded := by
  cases x with
  | give now command => exact congrArg Prod.snd (step_folded e now command)
  | openLine line => exact folded_folded { e with gateway := (e.gateway.openLine line).2 }
  | drain mailbox => exact folded_folded { e with gateway := (e.gateway.drain mailbox).2 }
  | hangUp mailbox => exact folded_folded { e with gateway := e.gateway.hangUp mailbox }
  | reorder rank =>
      rw [meet, meet, reordered_folded]
      exact (e.reordered rank).folded_folded

/-- **Engines that are the same up to folding stay so.** -/
theorem through_folded (h : e.folded = e'.folded) (xs : List Event) :
    (e.through xs).folded = (e'.through xs).folded := by
  induction xs using List.reverseRecOn with
  | nil => exact h
  | append_singleton xs x ih =>
      rw [through_concat, through_concat, ← meet_folded, ih, meet_folded]

/-! ### What is to be seen -/

/-- Two engines that look the same to everybody: they would answer any command alike, show the same
sessions to the same people, have recorded the same, and hold the same messages for everybody. -/
structure SameView (e e' : Engine) : Prop where
  answers : ∀ now command, (e.step now command).1 = (e'.step now command).1
  snapshots : ∀ sessionId, e.snapshot? sessionId = e'.snapshot? sessionId
  listing : e.publicSessions = e'.publicSessions
  places : ∀ userId, e.sessionOf? userId = e'.sessionOf? userId
  counts : e.sessionCount = e'.sessionCount ∧ e.activeUserCount = e'.activeUserCount
  recordings : ∀ sessionId, e.recording? sessionId = e'.recording? sessionId
  replays : ∀ sessionId, (e.recording? sessionId).bind (·.replay?) =
    (e'.recording? sessionId).bind (·.replay?)
  contents : ∀ sessionId time, (e.recording? sessionId).bind (·.contentAt? time) =
    (e'.recording? sessionId).bind (·.contentAt? time)
  gateway : e.gateway = e'.gateway

theorem snapshot?_folded (e : Engine) (sessionId : String) :
    e.folded.snapshot? sessionId = e.snapshot? sessionId := by
  have hsnapshot : Session.snapshot ∘ Session.folded = Session.snapshot :=
    funext Session.snapshot_folded
  rw [snapshot?, get?_folded, Option.map_map, hsnapshot, snapshot?]

theorem publicSessions_folded (e : Engine) : e.folded.publicSessions = e.publicSessions := by
  have hlisted : (e.folded.sessions.values.filter Session.isListed).map Session.listing =
      (e.sessions.values.filter Session.isListed).map Session.listing :=
    Table.map_filter_values_map (fun _ => rfl) fun _ => rfl
  rw [publicSessions, hlisted]
  rfl

theorem sessionCount_folded (e : Engine) : e.folded.sessionCount = e.sessionCount :=
  List.length_map _

/-- **Folding is not seen.** -/
theorem SameView.of_folded_eq (h : e.folded = e'.folded) : SameView e e' := by
  have harchive : e.folded.archive = e'.folded.archive := by rw [h]
  have hwhereabouts : e.folded.whereabouts = e'.folded.whereabouts := by rw [h]
  have hgateway : e.folded.gateway = e'.folded.gateway := by rw [h]
  change e.archive = e'.archive at harchive
  change e.whereabouts = e'.whereabouts at hwhereabouts
  refine ⟨fun now command => ?_, fun sessionId => ?_, ?_, fun userId => ?_, ⟨?_, ?_⟩,
    fun sessionId => ?_, fun sessionId => ?_, fun sessionId time => ?_, ?_⟩
  · have hstep := step_folded e now command
    rw [h, step_folded] at hstep
    exact (congrArg Prod.fst hstep).symm
  · rw [← snapshot?_folded, h, snapshot?_folded]
  · rw [← publicSessions_folded, h, publicSessions_folded]
  · rw [sessionOf?, hwhereabouts, sessionOf?]
  · rw [← sessionCount_folded, h, sessionCount_folded]
  · rw [activeUserCount, hwhereabouts, activeUserCount]
  · rw [recording?, harchive, recording?]
  · rw [recording?, harchive, recording?]
  · rw [recording?, harchive, recording?]
  · exact hgateway

/-! ### The limit -/

/-- An engine with a limit on histories keeps to it: every edit is followed by a compaction. -/
theorem Reachable.history_le {limit : Nat} {s : Session} (h : e.Reachable config)
    (hlimit : config.historyLimit = some limit) (hs : e.sessions.get? sessionId = some s) :
    s.history.length ≤ limit := by
  have hkept : ∀ {s s' : Session}, Session.SameDocument s s' → s.history.length ≤ limit →
      s'.history.length ≤ limit := by
    intro s s' hsame hle
    rw [hsame.history]
    exact hle
  refine h.session_invariant (I := fun s => s.history.length ≤ limit) ?_ ?_ s hs
  · intro sessionId hostId hostName assignmentId options settings now hsettings
    exact Nat.zero_le _
  · intro m s s' facts notices hturn hle
    cases hturn with
    | arrive _ _ hjoin => exact hkept (Session.sameDocument_join hjoin) hle
    | depart _ _ hdepart => exact hkept (Session.sameDocument_depart hdepart) hle
    | @edit _ _ _ _ s' _ _ hedit =>
        rw [limitHistory, hlimit]
        change (s'.history.drop (s'.history.length - limit)).length ≤ limit
        rw [List.length_drop]
        omega
    | point _ hmove => exact hkept (Session.sameDocument_moveCursor hmove) hle
    | help _ hrequest => exact hkept (Session.sameDocument_requestHelp hrequest) hle
    | giveUp => exact hkept Session.sameDocument_close hle

/-- **The limit on histories is not seen.** Let two engines be set up alike but for the limit, and
let the same happen to both, in whatever orders they visit their sessions. At every moment of the
run they look the same to everybody; they answer whatever may come next alike. The histories of all
sessions keep within the limit, if there is one. -/
theorem limit_unseen (config : Config) (limit limit' : Option Nat) (xs : List Event) :
    let e := (Engine.new { config with historyLimit := limit }).through xs
    let e' := (Engine.new { config with historyLimit := limit' }).through xs
    SameView e e' ∧
    ∀ bound, limit = some bound → ∀ sessionId s, e.sessions.get? sessionId = some s →
      s.history.length ≤ bound := by
  intro e e'
  have hnew : (Engine.new { config with historyLimit := limit }).folded =
      (Engine.new { config with historyLimit := limit' }).folded := rfl
  refine ⟨.of_folded_eq (through_folded hnew xs), ?_⟩
  intro bound hlimit sessionId s hs
  have hreachable : e.Reachable { config with historyLimit := limit } :=
    reachable_iff.mpr ⟨xs, rfl⟩
  exact hreachable.history_le hlimit hs

/-- Ada and Bob write a letter each. -/
def twoLetters : List Event :=
  [.give (.still ⟨0, 0⟩) (.create "ada" "Ada" "primes" {}),
    .give (.still ⟨1, 0⟩) (.join "$s0" "bob" "Bob" .participant),
    .give (.still ⟨2, 0⟩) (.change "$s0" "ada" (.insert 0 "a")),
    .give (.still ⟨3, 0⟩) (.change "$s0" "bob" (.insert 1 "b"))]

/-- An engine that keeps one change looks like one that keeps all of them, and does keep one. -/
theorem limit_unseen_twoLetters :
    SameView ((Engine.new { historyLimit := some 1 }).through twoLetters)
      ((Engine.new {}).through twoLetters) ∧
    ∃ s, ((Engine.new { historyLimit := some 1 }).through twoLetters).sessions.get? "$s0" =
        some s ∧ s.changeCount = 2 ∧ s.history.length = 1 ∧ s.history.length ≤ 1 := by
  have hthere : ((((Engine.new { historyLimit := some 1 }).through twoLetters).sessions.get?
      "$s0").map fun s => (s.changeCount, s.history.length)) = some (2, 1) := by decide +kernel
  obtain ⟨s, hs, hcounts⟩ := Option.map_eq_some_iff.mp hthere
  obtain ⟨hchanges, hhistory⟩ := Prod.mk.inj hcounts
  have hunseen := limit_unseen .default (some 1) none twoLetters
  exact ⟨hunseen.1, s, hs, hchanges, hhistory, hunseen.2 1 rfl "$s0" s hs⟩

end Engine

end CoEdit

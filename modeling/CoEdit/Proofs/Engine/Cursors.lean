import CoEdit.Engine.Views
import CoEdit.Proofs.Delivery.Tidings
import CoEdit.Proofs.Engine.Events
import CoEdit.Proofs.Engine.Likeness
import CoEdit.Proofs.Session.Rest
import CoEdit.Proofs.Table

/-!
# Cursors Are Only Shown

Participants may move their cursors at any time and as often as they like. The others get to see it,
and that is all: leave out some of the cursor moves of a run, and all else comes to the same. Every
other command is answered alike, and at every moment the sessions, the directory, the recordings and
all messages but those about cursors are the same.

## Main definitions

* `Engine.atRest`: the engine without cursors, marks of activity, and what was sent of them.
* `Engine.SameButCursors`: two engines that look the same to all who do not look at cursors.
* `Engine.otherAnswers`: the answers to the commands of a run that do not move cursors.

## Main results

* `likeness_atRest`: operations take no notice of cursors.
* `SameAtRest.step`: nor do the other commands.
* `sameAtRest_cursor`: a cursor move changes nothing else.
* `Reachable.through_filter`: the cursor moves of a run may be left out.
* `cursors_unseen`: runs that differ in cursor moves alone come to the same.
-/

namespace CoEdit

open CoEdit.Time (Instant)

/-- Whether a command moves a cursor. -/
def Command.isCursor : Command → Bool
  | .cursor .. => true
  | _ => false

/-- Whether an event is a move of a cursor. -/
def Event.isCursor : Event → Bool
  | .give _ command => command.isCursor
  | _ => false

/-- An answer without cursors and marks of activity. -/
def Answer.atRest : Answer → Answer
  | .session snapshot => .session snapshot.atRest
  | answer => answer

namespace Engine

variable {config : Config} {e e' : Engine} {sessionId userId : String} {now : Clock}

/-- An engine without cursors, marks of activity, and messages about cursors. -/
def atRest (e : Engine) : Engine :=
  { e with sessions := e.sessions.map Session.atRest, gateway := e.gateway.atRest }

theorem atRest_reordered (e : Engine) (rank : String → Nat) :
    (e.reordered rank).atRest = e.atRest.reordered rank :=
  congrArg (fun sessions => { e.atRest with sessions }) (Table.map_ranked rank e.sessions)

/-- Two engines that are the same at rest. -/
def SameAtRest (e e' : Engine) : Prop :=
  e'.atRest = e.atRest

theorem atRest_putSession (e : Engine) (s : Session) :
    (e.putSession s).atRest = e.atRest.putSession s.atRest :=
  congrArg (fun sessions => { e.atRest with sessions }) (Table.map_put e.sessions s.id s)

theorem atRest_announce (e : Engine) (sessionId : String) (notice : Notice)
    (exclude : Option String) (now : Instant) :
    (e.announce sessionId notice exclude now).atRest =
      { e.atRest with gateway := { e.atRest.gateway with
        log := e.atRest.gateway.log ++ Gateway.tidingsIn [⟨⟨sessionId, 0, now.toMillis, notice⟩,
          (e.atRest.gateway.recipients sessionId exclude).map (·.1)⟩] } } :=
  congrArg (fun gateway => { e.atRest with gateway })
    (e.gateway.atRest_broadcast sessionId notice exclude now)

namespace SameAtRest

/-- A session of one engine is one of the other, and the two are the same at rest. -/
theorem session (h : SameAtRest e e') (key : String) :
    (e.sessions.get? key = none ∧ e'.sessions.get? key = none) ∨
      ∃ s t, e.sessions.get? key = some s ∧ e'.sessions.get? key = some t ∧
        t.atRest = s.atRest := by
  have hget : (e'.sessions.get? key).map Session.atRest =
      (e.sessions.get? key).map Session.atRest := by
    rw [← Table.get?_map, ← Table.get?_map]
    exact congrArg (fun e : Engine => e.sessions.get? key) h
  cases hs : e.sessions.get? key with
  | none =>
      rw [hs] at hget
      exact .inl ⟨rfl, Option.map_eq_none_iff.mp hget⟩
  | some s =>
      rw [hs] at hget
      obtain ⟨t, ht, heq⟩ := Option.map_eq_some_iff.mp hget
      exact .inr ⟨s, t, rfl, ht, heq⟩

theorem putSession (h : SameAtRest e e') {s t : Session} (hst : t.atRest = s.atRest) :
    SameAtRest (e.putSession s) (e'.putSession t) := by
  rw [SameAtRest, atRest_putSession, atRest_putSession, hst, h]

end SameAtRest

/-- **Operations take no notice of cursors.** -/
theorem likeness_atRest (userId : String) :
    Likeness (fun p q => q.atRest = p.atRest) (fun name => name) (fun _ => True) userId
      SameAtRest where
  entries := Participant.likeness_atRest
  config h := (congrArg Engine.config h :)
  whereabouts h := (congrArg (fun e : Engine => e.whereabouts.get? userId) h :)
  session h _ := by
    rcases h.session _ with hnone | ⟨s, t, hs, ht, hst⟩
    · exact .inl hnone
    · exact .inr ⟨s, t, hs, ht, trivial, Session.like_iff_atRest.mpr hst⟩
  putSession h _ hst := h.putSession (Session.like_iff_atRest.mp hst)
  log fact now h _ := by
    have hsame : fact.renamed (fun name => name) = fact := by cases fact <;> rfl
    rw [hsame]
    exact congrArg (fun e : Engine => e.log _ fact now) h
  announce notice exclude now h _ := by
    have hsame : notice.renamed (fun name => name) = notice := by cases notice <;> rfl
    rw [hsame, SameAtRest, atRest_announce, atRest_announce, h]
  subscribe {_ _ key} h _ := by
    have hpart : ∀ e : Engine, { e with gateway := e.gateway.subscribe key userId }.atRest =
        { e.atRest with gateway := e.atRest.gateway.subscribe key userId } := fun e =>
      congrArg (fun gateway => { e.atRest with gateway }) (e.gateway.atRest_subscribe key userId)
    rw [SameAtRest, hpart, hpart, h]
  unsubscribe {_ _ key} h _ := by
    have hpart : ∀ e : Engine, { e with gateway := e.gateway.unsubscribe key userId }.atRest =
        { e.atRest with gateway := e.atRest.gateway.unsubscribe key userId } := fun e =>
      congrArg (fun gateway => { e.atRest with gateway }) (e.gateway.atRest_unsubscribe key userId)
    rw [SameAtRest, hpart, hpart, h]
  place key h := congrArg (fun e : Engine => e.place userId key) h
  displace h := congrArg (fun e : Engine => e.displace userId) h
  count h := (congrArg (fun e : Engine => { e with changesMade := e.changesMade + 1 }) h :)

/-! ### Commands -/

namespace SameAtRest

/-- Answers about sessions that are alike are the same at rest. -/
theorem answer_eq {a b : Answer}
    (h : a.Like (fun p q => q.atRest = p.atRest) (fun name => name) b) : b.atRest = a.atRest := by
  cases h with
  | session hst =>
      have hsame := congrArg Session.snapshot (Session.like_iff_atRest.mp hst)
      rw [Session.snapshot_atRest, Session.snapshot_atRest] at hsame
      exact congrArg Answer.session hsame
  | flag => rfl
  | change => rfl
  | done => rfl

theorem install (h : SameAtRest e e') (s : Session) (hostName : String) (now : Clock) :
    SameAtRest (e.install s hostName now) (e'.install s hostName now) := by
  have hL := likeness_atRest s.hostId
  have henroll : SameAtRest (e.enroll s.id s s.hostId) (e'.enroll s.id s s.hostId) :=
    hL.enroll h trivial trivial (Session.like_iff_atRest.mpr rfl)
  have htold : SameAtRest
      ((e.enroll s.id s s.hostId).tell s.id
        [.created s.hostId hostName s.title s.language s.content] [] (now.promptStamps s.id))
      ((e'.enroll s.id s s.hostId).tell s.id
        [.created s.hostId hostName s.title s.language s.content] [] (now.promptStamps s.id)) :=
    hL.tell henroll trivial [.created s.hostId hostName s.title s.language s.content] []
      (now.promptStamps s.id)
  exact (congrArg (fun e : Engine => { e with sessionsMade := e.sessionsMade + 1 })
    (hL.place s.id htold) :)

theorem create (h : SameAtRest e e') (hostId hostName assignmentId : String)
    (options : SessionOptions) (now : Clock) :
    Matching Eq SameAtRest (e.create hostId hostName assignmentId options now)
      (e'.create hostId hostName assignmentId options now) := by
  have hconfig : e'.config = e.config := (congrArg Engine.config h :)
  have hfresh : e'.freshSessionId = e.freshSessionId := (congrArg freshSessionId h :)
  rw [create_eq, create_eq, hconfig, hfresh]
  refine .bind_same fun _ => .bind_same fun settings => ?_
  have hvacate := (likeness_atRest hostId).vacate h (fun _ _ => trivial) now
  exact .done ⟨rfl, install hvacate _ _ now⟩

theorem endIdle (h : SameAtRest e e') (asOf : Instant) (now : Clock) (key : String) :
    SameAtRest (Engine.endIdle asOf now e key) (Engine.endIdle asOf now e' key) := by
  have hL := likeness_atRest key
  rcases h.session key with ⟨hs, ht⟩ | ⟨s, t, hs, ht, hst⟩
  · rw [endIdle_of_none hs, endIdle_of_none ht]
    exact h
  · have hclosed := ((Session.like_iff_atRest.mpr hst).close asOf).2
    rw [endIdle_eq hs, endIdle_eq ht]
    exact hL.tell (hL.putSession h trivial hclosed) trivial [.ended .idle]
      [(.sessionEnded .idle, none)] (now.stamps key)

theorem removeSession (h : SameAtRest e e') (key : String) :
    SameAtRest (e.removeSession key) (e'.removeSession key) := by
  have hpart : ∀ e : Engine, (e.removeSession key).atRest = e.atRest.removeSession key := fun e =>
    congrArg (fun sessions => { e.atRest.removeSession key with sessions })
      (Table.map_erase e.sessions key)
  rw [SameAtRest, hpart, hpart, h]

/-- The gateways may change alike. -/
theorem setGateway (h : SameAtRest e e') {g g' : Gateway} (hg : g'.atRest = g.atRest) :
    SameAtRest { e with gateway := g } { e' with gateway := g' } :=
  (congrArg₂ (fun (e : Engine) (gateway : Gateway) => { e with gateway }) h hg :)

/-- What keeps engines the same at rest does so for one session after the other. -/
theorem foldl {f : Engine → String → Engine}
    (hf : ∀ {e e'}, SameAtRest e e' → ∀ key, SameAtRest (f e key) (f e' key))
    (h : SameAtRest e e') (keys : List String) :
    SameAtRest (keys.foldl f e) (keys.foldl f e') := by
  induction keys generalizing e e' with
  | nil => exact h
  | cons key keys ih => exact ih (hf h key)

/-- The sessions that pass a test are the same, if the test takes no notice of cursors. -/
theorem filter_values (h : SameAtRest e e') {test : Session → Bool}
    (htest : ∀ s : Session, test s.atRest = test s) {α : Type} {g : Session → α}
    (hg : ∀ s : Session, g s.atRest = g s) :
    (e'.sessions.values.filter test).map g = (e.sessions.values.filter test).map g := by
  have hleft := Table.map_filter_values_map (t := e.sessions) htest hg
  have hright := Table.map_filter_values_map (t := e'.sessions) htest hg
  rw [← hleft, ← hright]
  exact congrArg (fun e : Engine => (e.sessions.values.filter test).map g) h

/-- The directory may forget who was in some sessions. -/
theorem forget (h : SameAtRest e e') (keys : List String) :
    SameAtRest { e with whereabouts := e.whereabouts.filter fun _ key => key ∉ keys }
      { e' with whereabouts := e'.whereabouts.filter fun _ key => key ∉ keys } :=
  (congrArg (fun e : Engine => { e with
    whereabouts := e.whereabouts.filter fun _ key => key ∉ keys }) h :)

theorem sweep (h : SameAtRest e e') (asOf : Instant) (now : Clock) :
    (e'.sweep asOf now).1 = (e.sweep asOf now).1 ∧
      SameAtRest (e.sweep asOf now).2 (e'.sweep asOf now).2 := by
  have hconfig : e'.config = e.config := (congrArg Engine.config h :)
  have habandoned : e'.abandoned asOf = e.abandoned asOf := by
    rw [abandoned, abandoned, hconfig]
    exact h.filter_values (fun s => s.isIdle_atRest asOf _) fun _ => rfl
  have hexpired : e'.expired asOf = e.expired asOf := by
    rw [expired, expired, hconfig]
    exact h.filter_values (fun _ => rfl) fun _ => rfl
  have hswept : SameAtRest (e.swept asOf now) (e'.swept asOf now) := by
    rw [swept, swept, habandoned, hexpired]
    exact foldl removeSession (foldl (endIdle · asOf now) h _) _
  rw [sweep_eq, sweep_eq, habandoned, hexpired]
  exact ⟨rfl, hswept.forget _⟩

/-- **Commands take no notice of cursors.** -/
theorem execute (h : SameAtRest e e') (now : Clock) (command : Command) :
    Matching (fun a b => b.atRest = a.atRest) SameAtRest (e.execute now command)
      (e'.execute now command) := by
  have hoperation : ∀ userId, isCreation command = false → command.caller? = some userId →
      Matching (fun a b => b.atRest = a.atRest) SameAtRest (e.execute now command)
        (e'.execute now command) := by
    intro userId hcreation hcaller
    have hfresh : e'.freshChangeId = e.freshChangeId := (congrArg freshChangeId h :)
    refine ((likeness_atRest userId).execute h hcreation hcaller (fun _ _ => trivial) hfresh
      now).mono ?_
    exact fun _ _ hrelated => ⟨answer_eq hrelated.1, hrelated.2⟩
  cases command with
  | create hostId hostName assignmentId options =>
      refine (h.create hostId hostName assignmentId options now).map ?_
      rintro ⟨snapshot, _⟩ ⟨_, _⟩ ⟨rfl, hafter⟩
      exact ⟨rfl, hafter⟩
  | join _ userId => exact hoperation userId rfl rfl
  | leave userId => exact hoperation userId rfl rfl
  | change _ authorId => exact hoperation authorId rfl rfl
  | cursor userId => exact hoperation userId rfl rfl
  | assist _ userId => exact hoperation userId rfl rfl
  | connect userId line =>
      obtain ⟨hnumber, hconnected⟩ :=
        Gateway.connect_of_atRest (congrArg Engine.gateway h) userId line
      exact .done ⟨congrArg Answer.mailbox hnumber, h.setGateway hconnected⟩
  | disconnect userId =>
      have hgateway : e'.gateway.atRest = e.gateway.atRest := congrArg Engine.gateway h
      have hremoved : (e'.gateway.disconnect userId).1 = (e.gateway.disconnect userId).1 :=
        (congrArg (fun g : Gateway => (g.disconnect userId).1) hgateway :)
      exact .done ⟨congrArg Answer.flag hremoved, h.setGateway
        (congrArg (fun g : Gateway => (g.disconnect userId).2) hgateway :)⟩
  | sweep asOf =>
      obtain ⟨hreport, hswept⟩ := h.sweep asOf now
      exact .done ⟨congrArg Answer.report hreport, hswept⟩

theorem step (h : SameAtRest e e') (now : Clock) (command : Command) :
    Corresponds (fun a b => b.atRest = a.atRest) (e.step now command).1 (e'.step now command).1 ∧
      SameAtRest (e.step now command).2 (e'.step now command).2 :=
  Matching.step (h.execute now command) h

theorem meet (h : SameAtRest e e') (x : Event) : SameAtRest (e.meet x) (e'.meet x) := by
  have hgateway : e'.gateway.atRest = e.gateway.atRest := congrArg Engine.gateway h
  cases x with
  | give now command => exact (h.step now command).2
  | openLine line => exact h.setGateway (Gateway.openLine_of_atRest hgateway line).2
  | drain mailbox =>
      refine h.setGateway ?_
      rw [Gateway.atRest_drain, Gateway.atRest_drain, hgateway]
  | hangUp mailbox =>
      refine h.setGateway ?_
      rw [Gateway.atRest_hangUp, Gateway.atRest_hangUp, hgateway]
  | reorder rank =>
      change (e'.reordered rank).atRest = (e.reordered rank).atRest
      rw [atRest_reordered, atRest_reordered, h]

end SameAtRest

/-! ### Moving cursors -/

/-- **A cursor move leaves the engine as it is at rest**, whoever moves it and wherever to. -/
theorem sameAtRest_cursor (he : e.Keyed) (userId : String) (position : Nat) (now : Clock) :
    SameAtRest e (e.step now (.cursor userId position)).2 := by
  rcases e.step_cases now (.cursor userId position) with
    ⟨error, hstep⟩ | ⟨answer, e', hok, hstep⟩
  · rw [hstep]
    rfl
  · rw [hstep]
    cases hok with
    | cursor hok =>
        obtain ⟨key, s, s', entry, -, hs, hmove, rfl⟩ := cursor_ok hok
        have hkey : s'.id = key := (Session.sameTerms_moveCursor hmove).id.trans (he hs)
        have hstored : (e.putSession s').atRest = e.atRest := by
          have hthere : e.atRest.sessions.get? s'.id = some s'.atRest := by
            rw [hkey, Session.atRest_moveCursor hmove]
            exact (Table.get?_map e.sessions key).trans (congrArg (Option.map _) hs)
          rw [atRest_putSession]
          exact congrArg (fun sessions => { e.atRest with sessions }) (Table.put_eq_self hthere)
        have hheard : ((e.putSession s').gateway.broadcast key
            (.cursorUpdate userId entry.userName position entry.color) (some userId)
              (now.announcing key 0)).2.atRest =
              (e.putSession s').gateway.atRest :=
          Gateway.atRest_broadcast_of_isCursorUpdate rfl key (some userId) _
        exact (congrArg (fun gateway => { (e.putSession s').atRest with gateway }) hheard).trans
          hstored

/-! ### What is to be seen -/

/-- Two engines look the same to all who look neither at cursors nor at when somebody was last
active. Every command is answered alike; there are the same sessions, with the same people in them,
and the same ones are listed; the same is recorded, and a sweep would report the same; and the same
messages have been sent to the same people, but for those about cursors. -/
structure SameButCursors (e e' : Engine) : Prop where
  answers : ∀ now command,
    (e'.step now command).1.map Answer.atRest = (e.step now command).1.map Answer.atRest
  sessions : e'.sessions.map Session.atRest = e.sessions.map Session.atRest
  whereabouts : e'.whereabouts = e.whereabouts
  archive : e'.archive = e.archive
  listing : e'.publicSessions = e.publicSessions
  reports : ∀ asOf now, (e'.sweep asOf now).1 = (e.sweep asOf now).1
  tidings : e'.gateway.tidings = e.gateway.tidings
  subscriptions : e'.gateway.subscriptions = e.gateway.subscriptions
  connections : e'.gateway.connections = e.gateway.connections
  counts : e'.sessionsMade = e.sessionsMade ∧ e'.changesMade = e.changesMade

/-- **Engines that are the same at rest look the same** to all who do not look at cursors. -/
theorem SameAtRest.sameButCursors (h : SameAtRest e e') : SameButCursors e e' where
  answers now command := (h.step now command).1.map_eq
  sessions := congrArg Engine.sessions h
  whereabouts := (congrArg Engine.whereabouts h :)
  archive := (congrArg Engine.archive h :)
  listing := by
    rw [publicSessions, publicSessions,
      h.filter_values Session.isListed_atRest Session.listing_atRest]
  reports asOf now := (h.sweep asOf now).1
  tidings := (congrArg (fun e : Engine => e.gateway.log) h :)
  subscriptions := (congrArg (fun e : Engine => e.gateway.subscriptions) h :)
  connections := (congrArg (fun e : Engine => e.gateway.connections) h :)
  counts := ⟨(congrArg Engine.sessionsMade h :), (congrArg Engine.changesMade h :)⟩

/-- The answer to a command that does not move a cursor, as it is at rest. -/
def otherAnswer (e : Engine) : Event → List (Except Error Answer)
  | .give now command =>
    if command.isCursor then [] else [(e.step now command).1.map Answer.atRest]
  | _ => []

/-- The answers to the commands of a run that do not move cursors, as they are at rest. -/
def otherAnswers (e : Engine) (xs : List Event) : List (Except Error Answer) :=
  collect otherAnswer e xs

theorem SameAtRest.otherAnswer_eq (h : SameAtRest e e') (x : Event) :
    e'.otherAnswer x = e.otherAnswer x := by
  cases x with
  | give now command => rw [otherAnswer, otherAnswer, (h.step now command).1.map_eq]
  | _ => rfl

/-- **The cursor moves of a run may be left out.** The other commands are answered alike, and the
engine afterwards is the same at rest. -/
theorem Reachable.through_filter (he : e.Reachable config) (xs : List Event) :
    e.otherAnswers (xs.filter (!·.isCursor)) = e.otherAnswers xs ∧
      SameAtRest (e.through (xs.filter (!·.isCursor))) (e.through xs) := by
  induction xs using List.reverseRecOn with
  | nil => exact ⟨rfl, rfl⟩
  | append_singleton xs x ih =>
      obtain ⟨hanswers, hsame⟩ := ih
      have hlast : ∀ xs, e.otherAnswers (xs ++ [x]) =
          e.otherAnswers xs ++ (e.through xs).otherAnswer x := fun xs => collect_concat _ e xs x
      cases hx : x.isCursor with
      | false =>
          have hkept : (xs ++ [x]).filter (!·.isCursor) = xs.filter (!·.isCursor) ++ [x] := by
            simp [hx]
          rw [hkept, through_concat, through_concat, hlast, hlast, hanswers, hsame.otherAnswer_eq]
          exact ⟨rfl, hsame.meet x⟩
      | true =>
          have hleft : (xs ++ [x]).filter (!·.isCursor) = xs.filter (!·.isCursor) := by
            simp [hx]
          have hkeyed : (e.through xs).Keyed := (he.through xs).coherent.balanced.id_eq
          rw [hleft, through_concat, hlast]
          cases x with
          | give now command =>
              cases command with
              | cursor userId position =>
                  refine ⟨hanswers.trans (List.append_nil _).symm, ?_⟩
                  exact (sameAtRest_cursor hkeyed userId position now).trans hsame
              | _ => cases hx
          | _ => cases hx

/-- **Cursors are only shown.** Let two runs differ in cursor moves alone; one of them may be the
other without some of its cursor moves. All other commands are answered alike, in whatever orders
the sessions are visited, and after the runs everything but the cursors and their messages is the
same. Since this is so of any two such runs, it is so at every moment of them. No cursor move ends a
session or keeps it from ending, lets it begin again, or changes its document. -/
theorem cursors_unseen (config : Config) {xs ys : List Event}
    (h : xs.filter (!·.isCursor) = ys.filter (!·.isCursor)) :
    (Engine.new config).otherAnswers xs = (Engine.new config).otherAnswers ys ∧
      SameButCursors ((Engine.new config).through xs) ((Engine.new config).through ys) := by
  have hnew : (Engine.new config).Reachable config := .new
  obtain ⟨hxs, hxsSame⟩ := hnew.through_filter xs
  obtain ⟨hys, hysSame⟩ := hnew.through_filter ys
  rw [h] at hxs hxsSame
  have hboth : SameAtRest ((Engine.new config).through xs) ((Engine.new config).through ys) :=
    hysSame.trans hxsSame.symm
  exact ⟨hxs.symm.trans hys, hboth.sameButCursors⟩

/-- Ada and Bob are in a session, and Bob writes a letter. Before and after, Ada moves her
cursor. -/
def twoMoves : List Event :=
  [.give (.still ⟨0, 0⟩) (.create "ada" "Ada" "primes" {}),
    .give (.still ⟨1, 0⟩) (.join "$s0" "bob" "Bob" .participant),
    .give (.still ⟨2, 0⟩) (.cursor "ada" 7),
    .give (.still ⟨3, 0⟩) (.change "$s0" "bob" (.insert 0 "b")),
    .give (.still ⟨4, 0⟩) (.cursor "ada" 9)]

/-- The same without the first move. -/
def oneMove : List Event :=
  [.give (.still ⟨0, 0⟩) (.create "ada" "Ada" "primes" {}),
    .give (.still ⟨1, 0⟩) (.join "$s0" "bob" "Bob" .participant),
    .give (.still ⟨3, 0⟩) (.change "$s0" "bob" (.insert 0 "b")),
    .give (.still ⟨4, 0⟩) (.cursor "ada" 9)]

/-- Bob gets the same answer, whether Ada has moved her cursor to the seventh place or not. -/
theorem cursors_unseen_oneMove :
    twoMoves.filter (!·.isCursor) = oneMove.filter (!·.isCursor) ∧
    ((((Engine.new .default).through (twoMoves.take 4)).sessions.get? "$s0").map
        fun s => s.roster.map Participant.cursor) = some [7, 0] ∧
    ((((Engine.new .default).through (oneMove.take 3)).sessions.get? "$s0").map
        fun s => s.roster.map Participant.cursor) = some [0, 0] ∧
    (Engine.new .default).otherAnswers twoMoves = (Engine.new .default).otherAnswers oneMove ∧
    SameButCursors ((Engine.new .default).through twoMoves)
      ((Engine.new .default).through oneMove) :=
  ⟨rfl, by decide +kernel, by decide +kernel, cursors_unseen .default rfl⟩

end Engine

end CoEdit

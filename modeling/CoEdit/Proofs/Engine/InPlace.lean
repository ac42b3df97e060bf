import CoEdit.Proofs.Engine.Life
import CoEdit.Proofs.Session.InPlace

/-!
# The Engine Changed in Place

The operations of the engine, as programs that change it in place in the order in which they do
their work: a session while it is held, then the subscriptions, the archive, the gateway and the
directory. A session that has been touched is stored back even if the touch is refused.

## Main definitions

* `Engine.within`: works on one session of the engine.
* `Engine.createInPlace`, `Engine.joinInPlace`, `Engine.leaveInPlace`, `Engine.changeInPlace`,
  `Engine.cursorInPlace`, `Engine.assistInPlace`: the operations.
* `Engine.carryOut`: carries out any command.

## Main results

* `on_within_bind`: work on a session that is all or nothing for the session is so for the engine.
* `on_carryOut`: carrying out a command in place comes to the same as the step of the engine.
-/

namespace CoEdit.Engine

open CoEdit.Time (Instant)
open InPlace

variable {α β : Type} {e : Engine} {sessionId userId userName : String} {role : Role}
  {now : Clock}

/-! ### Programs -/

/-- Works on a session, and gives the session as it is then along with the answer. -/
def within (sessionId : String) (p : InPlace Error Session α) :
    InPlace Error Engine (α × Session) := do
  let s ← check (·.requireSession sessionId)
  let (outcome, s) := p.on s
  modify fun e => { e with sessions := e.sessions.put sessionId s }
  let answer ← check fun _ => outcome
  pure (answer, s)

/-- Takes a user out of a session. What goes wrong here is passed over. -/
def departFromInPlace (sessionId userId : String) (now : Clock) : InPlace Error Engine Unit := do
  match ← observe (within sessionId (Session.departInPlace userId (now.acting sessionId))) with
  | .error _ => pure ()
  | .ok (departure, s) =>
    modify fun e => { e with gateway := e.gateway.unsubscribe sessionId userId }
    modify (·.log sessionId (.left userId) (now.recording sessionId 0))
    modify (·.announce sessionId
      (.userLeft userId departure.participant.userName s.onlineCount) none
      (now.announcing sessionId 0))
    match departure.ended with
    | none => pure ()
    | some reason =>
      modify (·.announceEnd sessionId reason (now.recording sessionId 1)
        (now.announcing sessionId 1))

/-- Takes a user out of the session they are in, if they are in one. -/
def vacateInPlace (userId : String) (now : Clock) : InPlace Error Engine Unit := do
  match (← get).whereabouts.get? userId with
  | none => pure ()
  | some previous =>
    modify (·.displace userId)
    departFromInPlace previous userId now

/-- Gives out the id of a new session. -/
def giveOut (e : Engine) : Engine :=
  { e with sessionsMade := e.sessionsMade + 1 }

/-- Creates a session with its host in it, who leaves the one they were in. -/
def createInPlace (hostId hostName assignmentId : String) (options : SessionOptions)
    (now : Clock) : InPlace Error Engine Snapshot := do
  check fun _ => require hostId .hostId
  let hostName := Text.orElseIfBlank hostName hostId
  let settings ← check fun e => settingsFor e.config hostName options
  let sessionId := (← get).freshSessionId
  modify giveOut
  vacateInPlace hostId now
  let s := Session.start sessionId hostId hostName assignmentId settings (now.acting sessionId)
  modify (·.log sessionId (.created hostId hostName s.title s.language s.content)
    (now.acting sessionId))
  modify fun e => { e with gateway := e.gateway.subscribe sessionId hostId }
  modify (·.putSession s)
  modify (·.place hostId sessionId)
  pure s.snapshot

/-- Takes a user who has joined a session out of the one they were in before, if it is another. -/
def leaveBehindInPlace (previous : Option String) (sessionId userId : String) (now : Clock) :
    InPlace Error Engine Unit :=
  match previous with
  | none => pure ()
  | some previous => if previous = sessionId then pure () else departFromInPlace previous userId now

/-- Lets a user into a session, and out of the one they were in. -/
def joinInPlace (sessionId userId userName : String) (role : Role) (now : Clock) :
    InPlace Error Engine Snapshot := do
  check fun _ => require sessionId .sessionId
  check fun _ => require userId .userId
  let (admission, s) ← within sessionId
    (Session.joinInPlace userId (Text.orElseIfBlank userName userId) role (now.acting sessionId))
  let entry := admission.participant
  modify fun e => { e with gateway := e.gateway.subscribe sessionId userId }
  if !admission.alreadyOnline then
    modify (·.log sessionId (.joined userId entry.userName entry.role) (now.recording sessionId 0))
  modify (·.announce sessionId
    (.userJoined userId entry.userName entry.role entry.color s.onlineCount s.status) none
    (now.announcing sessionId 0))
  let previous := (← get).whereabouts.get? userId
  modify (·.place userId sessionId)
  leaveBehindInPlace previous sessionId userId now
  pure s.snapshot

/-- Takes a user out of the session they are in. -/
def leaveInPlace (userId : String) (now : Clock) : InPlace Error Engine Bool := do
  check fun _ => require userId .userId
  match (← get).whereabouts.get? userId with
  | none => pure false
  | some sessionId =>
    modify (·.displace userId)
    departFromInPlace sessionId userId now
    pure true

/-- Applies an edit to a session, and folds its older changes if the settings say so. -/
def editWithinLimit (config : Config) (changeId authorId : String) (op : Operation)
    (now : Instant) : InPlace Error Session Change := do
  let change ← Session.editInPlace changeId authorId op now
  modify (limitHistory config)
  pure change

/-- Applies an edit to the document of a session. -/
def changeInPlace (sessionId authorId : String) (op : Operation) (now : Clock) :
    InPlace Error Engine Change := do
  check fun _ => require sessionId .sessionId
  check fun _ => require authorId .authorId
  let _ ← check (·.requireSession sessionId)
  let e ← get
  if e.whereabouts.get? authorId ≠ some sessionId then throw (.notInSession authorId)
  let (change, s) ← within sessionId
    (editWithinLimit e.config e.freshChangeId authorId op (now.acting sessionId))
  modify fun e => { e with changesMade := e.changesMade + 1 }
  modify (·.announce sessionId (.codeChange change s.content) (some authorId)
    (now.announcing sessionId 0))
  modify (·.log sessionId (.changed change) change.timestamp)
  pure change

/-- Moves the cursor of a user in the session they are in. -/
def cursorInPlace (userId : String) (position : Nat) (now : Clock) :
    InPlace Error Engine Unit := do
  check fun _ => require userId .userId
  match (← get).whereabouts.get? userId with
  | none => throw (.notInSession userId)
  | some sessionId =>
    let (entry, _) ← within sessionId
      (Session.moveCursorInPlace userId position (now.acting sessionId))
    modify (·.announce sessionId
      (.cursorUpdate userId entry.userName position entry.color) (some userId)
      (now.announcing sessionId 0))

/-- Asks a lecturer for help in a session. -/
def assistInPlace (sessionId userId : String) (message : Option String) (now : Clock) :
    InPlace Error Engine Unit := do
  check fun _ => require sessionId .sessionId
  check fun _ => require userId .userId
  let (entry, _) ← within sessionId (Session.requestHelpInPlace userId (now.acting sessionId))
  modify (·.log sessionId (.helpRequested userId message) (now.recording sessionId 0))
  modify (·.announce sessionId (.helpRequested userId entry.userName message) none
    (now.announcing sessionId 0))

/-- Carries out a command. -/
def carryOut (now : Clock) : Command → InPlace Error Engine Answer
  | .create hostId hostName assignmentId options =>
    .session <$> createInPlace hostId hostName assignmentId options now
  | .join sessionId userId userName role =>
    .session <$> joinInPlace sessionId userId userName role now
  | .leave userId => .flag <$> leaveInPlace userId now
  | .change sessionId authorId operation =>
    .change <$> changeInPlace sessionId authorId operation now
  | .cursor userId position => (fun _ => .done) <$> cursorInPlace userId position now
  | .assist sessionId userId message =>
    (fun _ => .done) <$> assistInPlace sessionId userId message now
  | .connect userId line => .mailbox <$> modifyGet fun e =>
    let (mailbox, gateway) := e.gateway.connect userId line
    (mailbox, { e with gateway })
  | .disconnect userId => .flag <$> modifyGet fun e =>
    let (removed, gateway) := e.gateway.disconnect userId
    (removed, { e with gateway })
  | .sweep asOf => .report <$> modifyGet (·.sweep asOf now)

/-! ### Working on one session -/

/-- Every session is kept under its own id. -/
def Keyed (e : Engine) : Prop :=
  ∀ {key s}, e.sessions.get? key = some s → s.id = key

/-- The session is stored back whatever the work on it comes to. -/
theorem on_within {p : InPlace Error Session α} {s : Session}
    (hs : e.sessions.get? sessionId = some s) :
    (within sessionId p).on e =
      ((p.on s).1.map (·, (p.on s).2),
        { e with sessions := e.sessions.put sessionId (p.on s).2 }) := by
  rw [within, on_bind, on_check, requireSession_eq_ok.mpr hs]
  dsimp only
  rw [on_bind_modify, on_bind, on_check]
  cases (p.on s).1 with
  | error => rfl
  | ok => rfl

/-- There is no work on a session that is not there. -/
theorem on_within_of_none {p : InPlace Error Session α}
    (hs : e.sessions.get? sessionId = none) :
    (within sessionId p).on e = (.error (.sessionNotFound sessionId), e) := by
  rw [within, on_bind, on_check, requireSession, hs]

/-- Work on a session that is all or nothing for the session is all or nothing for the engine,
since storing back a session that is as it was makes no difference. -/
theorem on_within_bind_of_get {p : InPlace Error Session α} {s : Session}
    {r : Except Error (α × Session)} {q : α × Session → InPlace Error Engine β}
    {result : Except Error (β × Engine)} (he : e.Keyed)
    (hs : e.sessions.get? sessionId = some s) (hp : p.on s = keep s r)
    (hid : ∀ {a s'}, r = .ok (a, s') → s'.id = s.id)
    (herror : ∀ error, r = .error error → result = .error error)
    (hok : ∀ a s', r = .ok (a, s') → (q (a, s')).on (e.putSession s') = keep e result) :
    (within sessionId p >>= q).on e = keep e result := by
  rw [on_bind, on_within hs, hp]
  rcases r with error | ⟨a, s'⟩
  · rw [herror error rfl]
    simp only [keep, Table.put_eq_self hs]
    rfl
  · have hkey : s'.id = sessionId := (hid rfl).trans (he hs)
    have hq := hok a s' rfl
    rw [putSession, hkey] at hq
    exact hq

/-- The same, with the look-up of the session. -/
theorem on_within_bind {p : InPlace Error Session α} {r : Session → Except Error (α × Session)}
    {q : α × Session → InPlace Error Engine β} {f : α × Session → Except Error (β × Engine)}
    (he : e.Keyed) (hp : ∀ s, p.on s = keep s (r s))
    (hid : ∀ {s a s'}, r s = .ok (a, s') → s'.id = s.id)
    (h : ∀ a s', (q (a, s')).on (e.putSession s') = keep e (f (a, s'))) :
    (within sessionId p >>= q).on e =
      keep e (e.requireSession sessionId >>= fun s => r s >>= f) := by
  cases hs : e.sessions.get? sessionId with
  | none =>
    rw [on_bind, on_within_of_none hs, requireSession, hs]
    rfl
  | some s =>
    rw [requireSession_eq_ok.mpr hs]
    refine on_within_bind_of_get he hs (hp s) hid (fun error herror => ?_) fun a s' hok => ?_
    · change r s >>= f = _
      rw [herror]
      rfl
    · change _ = keep e (r s >>= f)
      rw [hok]
      exact h a s'

/-! ### Operations -/

/-- Leaving never breaks off: what the session refuses is passed over, and has changed nothing. -/
theorem on_departFromInPlace (he : e.Keyed) (sessionId userId : String) (now : Clock) :
    (departFromInPlace sessionId userId now).on e =
      (.ok (), e.departFrom sessionId userId now) := by
  rw [departFromInPlace, on_bind, on_observe, departFrom]
  cases hs : e.sessions.get? sessionId with
  | none =>
    rw [on_within_of_none hs]
    rfl
  | some s =>
    rw [on_within hs, Session.on_departInPlace]
    cases hd : s.depart userId (now.acting sessionId) with
    | error =>
      simp only [keep, Table.put_eq_self hs, hd]
      rfl
    | ok result =>
      obtain ⟨departure, s'⟩ := result
      obtain rfl : s'.id = sessionId := (Session.sameTerms_depart hd).id.trans (he hs)
      dsimp only [keep, Except.map]
      simp only [on_bind_modify, hd]
      cases hended : departure.ended with
      | none => rfl
      | some reason => rfl

theorem on_vacateInPlace (he : e.Keyed) (userId : String) (now : Clock) :
    (vacateInPlace userId now).on e = (.ok (), e.vacate userId now) := by
  rw [vacateInPlace, on_bind_get, vacate]
  cases hwhere : e.whereabouts.get? userId with
  | none => rfl
  | some previous =>
    have hdisplaced : (e.displace userId).Keyed := he
    dsimp only
    rw [on_bind_modify, on_departFromInPlace hdisplaced]

theorem on_leaveBehindInPlace (he : e.Keyed) (previous : Option String)
    (sessionId userId : String) (now : Clock) :
    (leaveBehindInPlace previous sessionId userId now).on e =
      (.ok (), e.leaveBehind previous sessionId userId now) := by
  cases previous with
  | none => rfl
  | some key =>
    rw [leaveBehindInPlace, leaveBehind]
    split
    · rfl
    · exact on_departFromInPlace he key userId now

/-- It makes no difference whether the id of a new session is given out before a departure or after
it. -/
theorem departFrom_giveOut (e : Engine) (sessionId userId : String) (now : Clock) :
    e.giveOut.departFrom sessionId userId now = (e.departFrom sessionId userId now).giveOut := by
  have hsessions : e.giveOut.sessions = e.sessions := rfl
  rw [departFrom, departFrom, hsessions]
  cases e.sessions.get? sessionId with
  | none => rfl
  | some s =>
    dsimp only
    rcases s.depart userId (now.acting sessionId) with error | ⟨⟨participant, ended⟩, s'⟩
    · rfl
    · cases ended with
      | none => rfl
      | some reason => rfl

theorem vacate_giveOut (e : Engine) (userId : String) (now : Clock) :
    e.giveOut.vacate userId now = (e.vacate userId now).giveOut := by
  have hwhere : e.giveOut.whereabouts = e.whereabouts := rfl
  rw [vacate, vacate, hwhere]
  cases e.whereabouts.get? userId with
  | none => rfl
  | some previous => exact departFrom_giveOut (e.displace userId) previous userId now

theorem on_createInPlace {hostId hostName assignmentId : String} {options : SessionOptions}
    (he : e.Keyed) :
    (createInPlace hostId hostName assignmentId options now).on e =
      keep e (e.create hostId hostName assignmentId options now) := by
  have hgivenOut : e.giveOut.Keyed := he
  refine on_check_bind fun _ _ => on_check_bind fun settings _ => ?_
  rw [on_bind_get, on_bind_modify, on_bind, on_vacateInPlace hgivenOut, vacate_giveOut]
  rfl

/-- Storing a session keeps every session under its own id. -/
theorem Keyed.putSession (he : e.Keyed) (s : Session) : (e.putSession s).Keyed := by
  intro key t ht
  rw [Engine.putSession, Table.get?_put] at ht
  split at ht
  · next hkey =>
    obtain rfl := Option.some.inj ht
    exact hkey.symm
  · exact he ht

theorem on_joinInPlace (he : e.Keyed) :
    (joinInPlace sessionId userId userName role now).on e =
      keep e (e.join sessionId userId userName role now) := by
  refine on_check_bind fun _ _ => on_check_bind fun _ _ => ?_
  refine on_within_bind he Session.on_joinInPlace (fun h => (Session.sameTerms_join h).id)
    fun admission s => ?_
  have hwelcome : (e.welcome sessionId userId admission s now).Keyed := he.putSession s
  have hleave : (do
      leaveBehindInPlace (e.whereabouts.get? userId) sessionId userId now
      pure s.snapshot : InPlace Error Engine Snapshot).on
        (e.welcome sessionId userId admission s now) =
      (.ok s.snapshot, (e.welcome sessionId userId admission s now).leaveBehind
        (e.whereabouts.get? userId) sessionId userId now) := by
    rw [on_bind, on_leaveBehindInPlace hwelcome]
    rfl
  -- Whether an arrival is recorded is known once it is known whether the user was online.
  obtain ⟨participant, activated, rejoined, alreadyOnline⟩ := admission
  cases alreadyOnline with
  | true => exact hleave
  | false => exact hleave

theorem on_leaveInPlace (he : e.Keyed) :
    (leaveInPlace userId now).on e = keep e (e.leave userId now) := by
  refine on_check_bind fun _ _ => ?_
  rw [on_bind_get]
  cases hwhere : e.whereabouts.get? userId with
  | none => rfl
  | some previous =>
    have hdisplaced : (e.displace userId).Keyed := he
    dsimp only
    rw [on_bind_modify, on_bind, on_departFromInPlace hdisplaced]
    rfl

theorem on_editWithinLimit (config : Config) (changeId authorId : String) (op : Operation)
    (now : Instant) (s : Session) :
    (editWithinLimit config changeId authorId op now).on s =
      keep s (s.edit changeId authorId op now >>= fun x => pure (x.1, limitHistory config x.2)) :=
  on_bind_keep (Session.on_editInPlace s) fun _ _ _ => rfl

theorem on_changeInPlace {authorId : String} {op : Operation} (he : e.Keyed) :
    (changeInPlace sessionId authorId op now).on e =
      keep e (e.change sessionId authorId op now) := by
  refine on_check_bind fun _ _ => on_check_bind fun _ _ => on_check_bind fun s hs => ?_
  rw [on_bind_get]
  dsimp only
  split
  · rfl
  · have hget := requireSession_eq_ok.mp hs
    have hedited := on_editWithinLimit e.config e.freshChangeId authorId op
      (now.acting sessionId) s
    cases hedit : s.edit e.freshChangeId authorId op (now.acting sessionId) with
    | error error =>
      rw [hedit] at hedited
      refine on_within_bind_of_get he hget hedited nofun (fun _ herror => ?_)
        fun _ _ hok => absurd hok nofun
      obtain rfl := Except.error.inj herror
      rfl
    | ok result =>
      obtain ⟨change, s'⟩ := result
      rw [hedit] at hedited
      refine on_within_bind_of_get he hget hedited (fun hok => ?_) nofun fun _ _ hok => ?_
      · obtain ⟨-, rfl⟩ := Prod.mk.inj (Except.ok.inj hok)
        exact (sameTerms_limitHistory e.config s').id.trans (Session.sameTerms_edit hedit).id
      · obtain ⟨rfl, rfl⟩ := Prod.mk.inj (Except.ok.inj hok)
        rfl

theorem on_cursorInPlace {position : Nat} (he : e.Keyed) :
    (cursorInPlace userId position now).on e = keep e (e.cursor userId position now) := by
  refine on_check_bind fun _ _ => ?_
  rw [on_bind_get]
  cases hwhere : e.whereabouts.get? userId with
  | none => rfl
  | some key =>
    exact on_within_bind he Session.on_moveCursorInPlace
      (fun h => (Session.sameTerms_moveCursor h).id) fun entry s => rfl

theorem on_assistInPlace {message : Option String} (he : e.Keyed) :
    (assistInPlace sessionId userId message now).on e =
      keep e (e.assist sessionId userId message now) := by
  refine on_check_bind fun _ _ => on_check_bind fun _ _ => ?_
  exact on_within_bind he Session.on_requestHelpInPlace
    (fun h => (Session.sameTerms_requestHelp h).id) fun entry s => rfl

/-! ### Commands -/

theorem step_eq_keep (e : Engine) (now : Clock) (command : Command) :
    e.step now command = keep e (e.execute now command) := by
  rw [step]
  cases e.execute now command with
  | error => rfl
  | ok => rfl

/-- **Commands carried out in place are steps of the engine.** In particular one that breaks off has
changed nothing: every check of every command comes before its first change. -/
theorem on_carryOut (he : e.Keyed) (now : Clock) (command : Command) :
    (carryOut now command).on e = e.step now command := by
  rw [step_eq_keep]
  cases command with
  | create => exact on_map_keep _ (on_createInPlace he)
  | join => exact on_map_keep _ (on_joinInPlace he)
  | leave => exact on_map_keep _ (on_leaveInPlace he)
  | change => exact on_map_keep _ (on_changeInPlace he)
  | cursor => exact on_map_keep _ (on_cursorInPlace he)
  | assist => exact on_map_keep _ (on_assistInPlace he)
  | connect => rfl
  | disconnect => rfl
  | sweep => rfl

end CoEdit.Engine

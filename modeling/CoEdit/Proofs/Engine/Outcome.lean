import CoEdit.Engine.Command
import CoEdit.Proofs.Session.Outcome

/-!
# What an Operation Does

Every operation of the engine stores the new state of a session, says who is in it, and tells what
happened: it records facts and sends notices. This module brings the operations into this form. As
for sessions, each statement gives all that follows from the success of an operation.

## Main definitions

* `Engine.tell`: records facts and sends notices.
* `Engine.enroll`, `Engine.dismiss`: store a session and subscribe or unsubscribe a user.
* `Engine.place`, `Engine.displace`, `Engine.vacate`: say where a user is.
* `Engine.Outcome`: the successful commands with their answers and the engines they lead to.

## Main results

* `create_eq`, `join_eq`, `leave_eq`, `change_eq`, `cursor_eq`, `assist_eq`: the operations, made of
  their parts.
* `create_ok`, `join_ok`, `leave_ok`, `change_ok`, `cursor_ok`, `assist_ok`: the outcomes.
* `departFrom_eq`: a departure from a session that the user is on the roster of.
* `execute_ok`, `step_cases`: what a command that succeeds comes to, and that others change nothing.
-/

namespace CoEdit

open CoEdit.Time (Instant)

/-! ### Several facts, several notices -/

/-- The times at which facts are recorded and notices are sent, by their order. -/
structure Stamps where
  recorded : Nat → Instant
  announced : Nat → Instant

/-- What a clock shows while a session is told about. -/
def Clock.stamps (now : Clock) (sessionId : String) : Stamps :=
  ⟨now.recording sessionId, now.announcing sessionId⟩

/-- The same where what is recorded carries the time of the deed. -/
def Clock.promptStamps (now : Clock) (sessionId : String) : Stamps :=
  ⟨fun _ => now.acting sessionId, now.announcing sessionId⟩

/-- Records facts of a session, each at its time. -/
def Archive.recordAll (a : Archive) (sessionId : String) : List Fact → (Nat → Instant) → Archive
  | [], _ => a
  | fact :: facts, times =>
    (a.record sessionId fact (times 0)).2.recordAll sessionId facts fun k => times (k + 1)

/-- Sends notices of a session, each at its time and without the user to be excluded. -/
def Gateway.broadcastAll (g : Gateway) (sessionId : String) :
    List (Notice × Option String) → (Nat → Instant) → Gateway
  | [], _ => g
  | n :: notices, times =>
    (g.broadcast sessionId n.1 n.2 (times 0)).2.broadcastAll sessionId notices fun k =>
      times (k + 1)

namespace Engine

variable {e e' : Engine} {sessionId userId userName : String} {role : Role} {now : Clock}

/-! ### The parts of an operation -/

/-- Records facts and sends notices of a session. -/
def tell (e : Engine) (sessionId : String) (facts : List Fact)
    (notices : List (Notice × Option String)) (stamps : Stamps) : Engine :=
  { e with
    archive := e.archive.recordAll sessionId facts stamps.recorded
    gateway := e.gateway.broadcastAll sessionId notices stamps.announced }

/-- Stores a session and subscribes a user to it. -/
def enroll (e : Engine) (sessionId : String) (s : Session) (userId : String) : Engine :=
  { e.putSession s with gateway := e.gateway.subscribe sessionId userId }

/-- Stores a session and ends the subscription of a user to it. -/
def dismiss (e : Engine) (sessionId : String) (s : Session) (userId : String) : Engine :=
  { e.putSession s with gateway := e.gateway.unsubscribe sessionId userId }

/-- Puts down that a user is in a session. -/
def place (e : Engine) (userId sessionId : String) : Engine :=
  { e with whereabouts := e.whereabouts.put userId sessionId }

/-- Puts down that a user is in no session. -/
def displace (e : Engine) (userId : String) : Engine :=
  { e with whereabouts := e.whereabouts.erase userId }

/-- Takes a user out of the session they are in, if they are in one. -/
def vacate (e : Engine) (userId : String) (now : Clock) : Engine :=
  match e.whereabouts.get? userId with
  | none => e
  | some previous => (e.displace userId).departFrom previous userId now

/-! ### The checks -/

theorem requireSession_eq_ok {s : Session} :
    e.requireSession sessionId = .ok s ↔ e.sessions.get? sessionId = some s := by
  rw [requireSession]
  split <;> simp_all

/-! ### Coming and going -/

/-- What is recorded of a departure. -/
def departureFacts (userId : String) (departure : Departure) : List Fact :=
  .left userId :: (departure.ended.map Fact.ended).toList

/-- What is announced of a departure; `s` is the session afterwards. -/
def departureNotices (userId : String) (departure : Departure) (s : Session) : List Notice :=
  .userLeft userId departure.participant.userName s.onlineCount ::
    (departure.ended.map Notice.sessionEnded).toList

/-- A departure from a session that lets the user go. -/
theorem departFrom_eq {s s' : Session} {departure : Departure}
    (hs : e.sessions.get? sessionId = some s)
    (hd : s.depart userId (now.acting sessionId) = .ok (departure, s')) :
    e.departFrom sessionId userId now =
      (e.dismiss sessionId s' userId).tell sessionId (departureFacts userId departure)
        ((departureNotices userId departure s').map (·, none)) (now.stamps sessionId) := by
  rw [departFrom, hs]
  simp only [hd]
  cases hended : departure.ended with
  | none =>
      rw [departureFacts, departureNotices, hended]
      rfl
  | some reason =>
      rw [departureFacts, departureNotices, hended]
      rfl

/-- The engine with a new session in it and its host placed there. -/
def install (e : Engine) (s : Session) (hostName : String) (now : Clock) : Engine :=
  { ((e.enroll s.id s s.hostId).tell s.id
      [.created s.hostId hostName s.title s.language s.content] []
      (now.promptStamps s.id)).place s.hostId s.id with
    sessionsMade := e.sessionsMade + 1 }

/-- **Creation.** The host leaves the session they were in; then the new one is installed. -/
theorem create_eq {hostId hostName assignmentId : String} {options : SessionOptions} :
    e.create hostId hostName assignmentId options now = (do
      require hostId .hostId
      let settings ← settingsFor e.config (Text.orElseIfBlank hostName hostId) options
      let s := Session.start e.freshSessionId hostId (Text.orElseIfBlank hostName hostId)
        assignmentId settings (now.acting e.freshSessionId)
      pure (s.snapshot,
        (e.vacate hostId now).install s (Text.orElseIfBlank hostName hostId) now)) := rfl

theorem create_ok {hostId hostName assignmentId : String} {options : SessionOptions}
    {snapshot : Snapshot}
    (h : e.create hostId hostName assignmentId options now = .ok (snapshot, e')) :
    ∃ settings, settingsFor e.config (Text.orElseIfBlank hostName hostId) options = .ok settings ∧
      snapshot = (Session.start e.freshSessionId hostId (Text.orElseIfBlank hostName hostId)
        assignmentId settings (now.acting e.freshSessionId)).snapshot ∧
      e' = (e.vacate hostId now).install
        (Session.start e.freshSessionId hostId (Text.orElseIfBlank hostName hostId)
          assignmentId settings (now.acting e.freshSessionId))
          (Text.orElseIfBlank hostName hostId) now := by
  rw [create_eq] at h
  obtain ⟨_, -, h⟩ := bind_eq_ok.mp h
  obtain ⟨settings, hsettings, h⟩ := bind_eq_ok.mp h
  obtain ⟨rfl, rfl⟩ := Prod.mk.inj (Except.ok.inj h)
  exact ⟨settings, hsettings, rfl, rfl⟩

/-- **Settling.** No session is created without a place, and its flags are those that its creator
asked for. -/
theorem settingsFor_ok {config : Config} {hostName : String} {options : SessionOptions}
    {settings : SessionSettings} (h : settingsFor config hostName options = .ok settings) :
    1 ≤ settings.maxParticipants ∧ settings.isPublic = options.isPublic ∧
      settings.lecturerAssistance = options.lecturerAssistance := by
  rw [settingsFor] at h
  split at h
  · cases h
  · next hpositive =>
    obtain rfl := Except.ok.inj h
    exact ⟨Nat.one_le_iff_ne_zero.mpr hpositive, rfl, rfl⟩

/-- What is recorded of an arrival: nothing if the user was online already. -/
def arrivalFacts (userId : String) (admission : Admission) : List Fact :=
  if admission.alreadyOnline then []
  else [.joined userId admission.participant.userName admission.participant.role]

/-- What is announced of an arrival; `s` is the session afterwards. -/
def arrivalNotice (userId : String) (admission : Admission) (s : Session) : Notice :=
  .userJoined userId admission.participant.userName admission.participant.role
    admission.participant.color s.onlineCount s.status

/-- The engine once a user has arrived in a session, and not yet left the one before. -/
def welcome (e : Engine) (sessionId userId : String) (admission : Admission) (s : Session)
    (now : Clock) : Engine :=
  ((e.enroll sessionId s userId).tell sessionId (arrivalFacts userId admission)
    [(arrivalNotice userId admission s, none)] (now.stamps sessionId)).place userId sessionId

/-- Leaves the session that the user was in before, unless it is the one they have joined. -/
def leaveBehind (e : Engine) (previous : Option String) (sessionId userId : String)
    (now : Clock) : Engine :=
  match previous with
  | none => e
  | some previous => if previous = sessionId then e else e.departFrom previous userId now

/-- Whoever was in no other session leaves none behind. -/
theorem leaveBehind_of_forall {previous : Option String}
    (h : ∀ key, previous = some key → key = sessionId) :
    e.leaveBehind previous sessionId userId now = e := by
  cases previous with
  | none => rfl
  | some key => exact if_pos (h key rfl)

/-- Whoever was in another session leaves it. -/
theorem leaveBehind_of_ne {previous : String} (h : previous ≠ sessionId) :
    e.leaveBehind (some previous) sessionId userId now = e.departFrom previous userId now :=
  if_neg h

/-- **Joining.** The session lets the user in; whoever was in another session then leaves it. -/
theorem join_eq :
    e.join sessionId userId userName role now = (do
      require sessionId .sessionId
      require userId .userId
      let s ← e.requireSession sessionId
      let (admission, s') ← s.join userId (Text.orElseIfBlank userName userId) role
        (now.acting sessionId)
      pure (s'.snapshot, (e.welcome sessionId userId admission s' now).leaveBehind
        (e.whereabouts.get? userId) sessionId userId now)) := by
  rw [join]
  refine bind_congr fun _ => bind_congr fun _ => bind_congr fun s => bind_congr ?_
  rintro ⟨admission, s'⟩
  dsimp only
  rw [welcome, arrivalFacts]
  cases admission.alreadyOnline with
  | false => rfl
  | true => rfl

theorem join_ok {snapshot : Snapshot}
    (h : e.join sessionId userId userName role now = .ok (snapshot, e')) :
    ∃ s s' admission, e.sessions.get? sessionId = some s ∧
      s.join userId (Text.orElseIfBlank userName userId) role
        (now.acting sessionId) = .ok (admission, s') ∧
      snapshot = s'.snapshot ∧
      e' = (e.welcome sessionId userId admission s' now).leaveBehind
        (e.whereabouts.get? userId) sessionId userId now := by
  rw [join_eq] at h
  obtain ⟨_, -, h⟩ := bind_eq_ok.mp h
  obtain ⟨_, -, h⟩ := bind_eq_ok.mp h
  obtain ⟨s, hs, h⟩ := bind_eq_ok.mp h
  obtain ⟨⟨admission, s'⟩, hjoin, h⟩ := bind_eq_ok.mp h
  obtain ⟨rfl, rfl⟩ := Prod.mk.inj (Except.ok.inj h)
  exact ⟨s, s', admission, requireSession_eq_ok.mp hs, hjoin, rfl, rfl⟩

/-- **Leaving.** The user is in no session afterwards. -/
theorem leave_eq :
    e.leave userId now = (do
      require userId .userId
      pure ((e.whereabouts.get? userId).isSome, e.vacate userId now)) := by
  rw [leave]
  refine bind_congr fun _ => ?_
  rw [vacate]
  cases e.whereabouts.get? userId with
  | none => rfl
  | some previous => rfl

theorem leave_ok {left : Bool} (h : e.leave userId now = .ok (left, e')) :
    e' = e.vacate userId now := by
  rw [leave_eq] at h
  obtain ⟨_, -, h⟩ := bind_eq_ok.mp h
  exact (Prod.mk.inj (Except.ok.inj h)).2.symm

/-! ### Working together -/

/-- **Editing.** The author is in the session, and the session takes the edit. -/
theorem change_eq {authorId : String} {op : Operation} :
    e.change sessionId authorId op now = (do
      require sessionId .sessionId
      require authorId .authorId
      let s ← e.requireSession sessionId
      if e.whereabouts.get? authorId = some sessionId then
        let (change, s') ← s.edit e.freshChangeId authorId op (now.acting sessionId)
        pure (change, { (e.putSession (limitHistory e.config s')).tell sessionId [.changed change]
          [(.codeChange change (limitHistory e.config s').content, some authorId)]
          (now.promptStamps sessionId) with
          changesMade := e.changesMade + 1 })
      else .error (.notInSession authorId)) := by
  rw [Engine.change]
  refine bind_congr fun _ => bind_congr fun _ => bind_congr fun s => ?_
  dsimp only
  by_cases hwhere : e.whereabouts.get? authorId = some sessionId
  · rw [if_neg (not_not.mpr hwhere), if_pos hwhere]
    cases hedit : s.edit e.freshChangeId authorId op (now.acting sessionId) with
    | error => rfl
    | ok result =>
        obtain ⟨change, s'⟩ := result
        -- The change is recorded under its own time, which is that of the edit.
        obtain ⟨-, -, hchange, -⟩ := Session.edit_ok hedit
        have htime : change.timestamp = now.acting sessionId := by rw [hchange]
        change Except.ok _ = Except.ok _
        rw [htime]
        rfl
  · rw [if_pos hwhere, if_neg hwhere]
    rfl

theorem change_ok {authorId : String} {op : Operation} {change : Change}
    (h : e.change sessionId authorId op now = .ok (change, e')) :
    ∃ s s', e.sessions.get? sessionId = some s ∧
      e.whereabouts.get? authorId = some sessionId ∧
      s.edit e.freshChangeId authorId op (now.acting sessionId) = .ok (change, s') ∧
      e' = { (e.putSession (limitHistory e.config s')).tell sessionId [.changed change]
        [(.codeChange change (limitHistory e.config s').content, some authorId)]
          (now.promptStamps sessionId) with
        changesMade := e.changesMade + 1 } := by
  rw [change_eq] at h
  obtain ⟨_, -, h⟩ := bind_eq_ok.mp h
  obtain ⟨_, -, h⟩ := bind_eq_ok.mp h
  obtain ⟨s, hs, h⟩ := bind_eq_ok.mp h
  split at h
  · next hwhere =>
    obtain ⟨⟨edit, s'⟩, hedit, h⟩ := bind_eq_ok.mp h
    obtain ⟨rfl, rfl⟩ := Prod.mk.inj (Except.ok.inj h)
    exact ⟨s, s', requireSession_eq_ok.mp hs, hwhere, hedit, rfl⟩
  · cases h

/-- Whether the history is limited is not seen. -/
theorem snapshot_limitHistory (config : Config) (s : Session) :
    (limitHistory config s).snapshot = s.snapshot := by
  rw [limitHistory]
  split
  · rfl
  · exact Session.snapshot_compact s _

theorem sameTerms_limitHistory (config : Config) (s : Session) :
    Session.SameTerms s (limitHistory config s) :=
  Session.sameTerms_of_snapshot_eq (snapshot_limitHistory config s)

theorem roster_limitHistory (config : Config) (s : Session) :
    (limitHistory config s).roster = s.roster :=
  congrArg Snapshot.participants (snapshot_limitHistory config s)

theorem content_limitHistory (config : Config) (s : Session) :
    (limitHistory config s).content = s.content :=
  congrArg Snapshot.content (snapshot_limitHistory config s)

theorem changeCount_limitHistory (config : Config) (s : Session) :
    (limitHistory config s).changeCount = s.changeCount :=
  congrArg Snapshot.changeCount (snapshot_limitHistory config s)

theorem status_limitHistory (config : Config) (s : Session) :
    (limitHistory config s).status = s.status :=
  congrArg Snapshot.status (snapshot_limitHistory config s)

theorem lecturerAssistance_limitHistory (config : Config) (s : Session) :
    (limitHistory config s).lecturerAssistance = s.lecturerAssistance :=
  congrArg Snapshot.lecturerAssistance (snapshot_limitHistory config s)

/-- **Pointing.** The user is in a session, and the session takes the cursor. -/
theorem cursor_eq {position : Nat} :
    e.cursor userId position now = (do
      require userId .userId
      match e.whereabouts.get? userId with
      | none => throw (.notInSession userId)
      | some sessionId =>
        let s ← e.requireSession sessionId
        let (entry, s') ← s.moveCursor userId position (now.acting sessionId)
        pure ((), (e.putSession s').tell sessionId []
          [(.cursorUpdate userId entry.userName position entry.color, some userId)]
          (now.stamps sessionId))) := rfl

theorem cursor_ok {position : Nat} {u : Unit}
    (h : e.cursor userId position now = .ok (u, e')) :
    ∃ sessionId s s' entry, e.whereabouts.get? userId = some sessionId ∧
      e.sessions.get? sessionId = some s ∧
      s.moveCursor userId position (now.acting sessionId) = .ok (entry, s') ∧
      e' = (e.putSession s').tell sessionId []
        [(.cursorUpdate userId entry.userName position entry.color, some userId)]
        (now.stamps sessionId) := by
  rw [cursor_eq] at h
  obtain ⟨_, -, h⟩ := bind_eq_ok.mp h
  split at h
  · cases h
  · next sessionId hwhere =>
    obtain ⟨s, hs, h⟩ := bind_eq_ok.mp h
    obtain ⟨⟨entry, s'⟩, hmove, h⟩ := bind_eq_ok.mp h
    obtain ⟨rfl, rfl⟩ := Prod.mk.inj (Except.ok.inj h)
    exact ⟨sessionId, s, s', entry, hwhere, requireSession_eq_ok.mp hs, hmove, rfl⟩

/-- **Asking for help.** The session takes the request. -/
theorem assist_eq {message : Option String} :
    e.assist sessionId userId message now = (do
      require sessionId .sessionId
      require userId .userId
      let s ← e.requireSession sessionId
      let (entry, s') ← s.requestHelp userId (now.acting sessionId)
      pure ((), (e.putSession s').tell sessionId [.helpRequested userId message]
        [(.helpRequested userId entry.userName message, none)] (now.stamps sessionId))) := rfl

theorem assist_ok {message : Option String} {u : Unit}
    (h : e.assist sessionId userId message now = .ok (u, e')) :
    ∃ s s' entry, e.sessions.get? sessionId = some s ∧
      s.requestHelp userId (now.acting sessionId) = .ok (entry, s') ∧
      e' = (e.putSession s').tell sessionId [.helpRequested userId message]
        [(.helpRequested userId entry.userName message, none)] (now.stamps sessionId) := by
  rw [assist_eq] at h
  obtain ⟨_, -, h⟩ := bind_eq_ok.mp h
  obtain ⟨_, -, h⟩ := bind_eq_ok.mp h
  obtain ⟨s, hs, h⟩ := bind_eq_ok.mp h
  obtain ⟨⟨entry, s'⟩, hrequest, h⟩ := bind_eq_ok.mp h
  obtain ⟨rfl, rfl⟩ := Prod.mk.inj (Except.ok.inj h)
  exact ⟨s, s', entry, requireSession_eq_ok.mp hs, hrequest, rfl⟩

/-! ### Sweeping -/

/-- Giving up a session that is there. -/
theorem endIdle_eq {s : Session} {asOf : Instant} (hs : e.sessions.get? sessionId = some s) :
    endIdle asOf now e sessionId = (e.putSession (s.close asOf).2).tell sessionId
      [.ended .idle] [(.sessionEnded .idle, none)] (now.stamps sessionId) := by
  rw [endIdle, hs]
  rfl

/-- Giving up a session that is not there does nothing. -/
theorem endIdle_of_none {asOf : Instant} (hs : e.sessions.get? sessionId = none) :
    endIdle asOf now e sessionId = e := by
  rw [endIdle, hs]

/-- The sessions that a sweep gives up, in order of creation. -/
def abandoned (e : Engine) (asOf : Instant) : List String :=
  (e.sessions.values.filter (isAbandoned e.config · asOf)).map Session.id

/-- The sessions that a sweep removes, in order of creation. -/
def expired (e : Engine) (asOf : Instant) : List String :=
  (e.sessions.values.filter (isExpired e.config · asOf)).map Session.id

/-- The engine once a sweep has given up some sessions and removed others. -/
def swept (e : Engine) (asOf : Instant) (now : Clock) : Engine :=
  (e.expired asOf).foldl removeSession ((e.abandoned asOf).foldl (endIdle asOf now) e)

/-- **Sweeping.** In the end the directory forgets who was in the sessions removed. -/
theorem sweep_eq (asOf : Instant) : e.sweep asOf now =
    (⟨e.abandoned asOf, e.expired asOf⟩,
      { e.swept asOf now with
        whereabouts :=
          (e.swept asOf now).whereabouts.filter fun _ key => key ∉ e.expired asOf }) := rfl

/-! ### Commands -/

/-- Whether a command asks for a new session. -/
def isCreation : Command → Bool
  | .create .. => true
  | _ => false

/-- The successful commands, each with its answer and the engine after it. -/
inductive Outcome (e : Engine) (now : Clock) : Command → Answer → Engine → Prop
  | create {hostId hostName assignmentId : String} {options : SessionOptions}
      {snapshot : Snapshot} {e' : Engine}
      (hok : e.create hostId hostName assignmentId options now = .ok (snapshot, e')) :
      Outcome e now (.create hostId hostName assignmentId options) (.session snapshot) e'
  | join {sessionId userId userName : String} {role : Role} {snapshot : Snapshot} {e' : Engine}
      (hok : e.join sessionId userId userName role now = .ok (snapshot, e')) :
      Outcome e now (.join sessionId userId userName role) (.session snapshot) e'
  | leave {userId : String} {left : Bool} {e' : Engine}
      (hok : e.leave userId now = .ok (left, e')) : Outcome e now (.leave userId) (.flag left) e'
  | change {sessionId authorId : String} {op : Operation} {change : Change} {e' : Engine}
      (hok : e.change sessionId authorId op now = .ok (change, e')) :
      Outcome e now (.change sessionId authorId op) (.change change) e'
  | cursor {userId : String} {position : Nat} {u : Unit} {e' : Engine}
      (hok : e.cursor userId position now = .ok (u, e')) :
      Outcome e now (.cursor userId position) .done e'
  | assist {sessionId userId : String} {message : Option String} {u : Unit} {e' : Engine}
      (hok : e.assist sessionId userId message now = .ok (u, e')) :
      Outcome e now (.assist sessionId userId message) .done e'
  | connect (userId : String) (line : Line) :
      Outcome e now (.connect userId line) (.mailbox (e.gateway.connect userId line).1)
        { e with gateway := (e.gateway.connect userId line).2 }
  | disconnect (userId : String) :
      Outcome e now (.disconnect userId) (.flag (e.gateway.disconnect userId).1)
        { e with gateway := (e.gateway.disconnect userId).2 }
  | sweep (asOf : Instant) :
      Outcome e now (.sweep asOf) (.report (e.sweep asOf now).1) (e.sweep asOf now).2

/-- Every command that is carried out comes to one of the outcomes. -/
theorem execute_ok {command : Command} {answer : Answer}
    (h : e.execute now command = .ok (answer, e')) : Outcome e now command answer e' := by
  cases command with
  | create =>
      obtain ⟨⟨snapshot, after⟩, hok, heq⟩ := map_eq_ok.mp h
      obtain ⟨rfl, rfl⟩ := Prod.mk.inj heq
      exact .create hok
  | join =>
      obtain ⟨⟨snapshot, after⟩, hok, heq⟩ := map_eq_ok.mp h
      obtain ⟨rfl, rfl⟩ := Prod.mk.inj heq
      exact .join hok
  | leave =>
      obtain ⟨⟨left, after⟩, hok, heq⟩ := map_eq_ok.mp h
      obtain ⟨rfl, rfl⟩ := Prod.mk.inj heq
      exact .leave hok
  | change =>
      obtain ⟨⟨change, after⟩, hok, heq⟩ := map_eq_ok.mp h
      obtain ⟨rfl, rfl⟩ := Prod.mk.inj heq
      exact .change hok
  | cursor =>
      obtain ⟨⟨u, after⟩, hok, heq⟩ := map_eq_ok.mp h
      obtain ⟨rfl, rfl⟩ := Prod.mk.inj heq
      exact .cursor hok
  | assist =>
      obtain ⟨⟨u, after⟩, hok, heq⟩ := map_eq_ok.mp h
      obtain ⟨rfl, rfl⟩ := Prod.mk.inj heq
      exact .assist hok
  | connect userId line =>
      obtain ⟨rfl, rfl⟩ := Prod.mk.inj (Except.ok.inj h)
      exact .connect userId line
  | disconnect userId =>
      obtain ⟨rfl, rfl⟩ := Prod.mk.inj (Except.ok.inj h)
      exact .disconnect userId
  | sweep asOf =>
      obtain ⟨rfl, rfl⟩ := Prod.mk.inj (Except.ok.inj h)
      exact .sweep asOf

/-- A command is refused and changes nothing, or has an outcome. -/
theorem step_cases (e : Engine) (now : Clock) (command : Command) :
    (∃ error, e.step now command = (.error error, e)) ∨
      ∃ answer e', Outcome e now command answer e' ∧ e.step now command = (.ok answer, e') := by
  rw [step]
  cases hexecute : e.execute now command with
  | error error => exact .inl ⟨error, rfl⟩
  | ok result => exact .inr ⟨result.1, result.2, execute_ok hexecute, rfl⟩

/-! ### What most operations leave alone -/

/-- Two engines have the same configuration and have given out as many ids. -/
structure SameCount (e e' : Engine) : Prop where
  config : e'.config = e.config
  sessionsMade : e'.sessionsMade = e.sessionsMade
  changesMade : e'.changesMade = e.changesMade

theorem SameCount.trans {e₁ e₂ e₃ : Engine} (h₁ : SameCount e₁ e₂) (h₂ : SameCount e₂ e₃) :
    SameCount e₁ e₃ :=
  ⟨h₂.config.trans h₁.config, h₂.sessionsMade.trans h₁.sessionsMade,
    h₂.changesMade.trans h₁.changesMade⟩

theorem sameCount_departFrom (e : Engine) (sessionId userId : String) (now : Clock) :
    SameCount e (e.departFrom sessionId userId now) := by
  rw [departFrom]
  split
  · exact ⟨rfl, rfl, rfl⟩
  · split
    · exact ⟨rfl, rfl, rfl⟩
    · simp only
      split <;> exact ⟨rfl, rfl, rfl⟩

theorem sameCount_vacate (e : Engine) (userId : String) (now : Clock) :
    SameCount e (e.vacate userId now) := by
  rw [vacate]
  split
  · exact ⟨rfl, rfl, rfl⟩
  · next previous _ =>
    have hdisplace : SameCount e (e.displace userId) := ⟨rfl, rfl, rfl⟩
    exact hdisplace.trans (sameCount_departFrom _ previous userId now)

theorem sameCount_leaveBehind (e : Engine) (previous : Option String) (sessionId userId : String)
    (now : Clock) : SameCount e (e.leaveBehind previous sessionId userId now) := by
  cases previous with
  | none => exact ⟨rfl, rfl, rfl⟩
  | some key =>
      rw [leaveBehind]
      split
      · exact ⟨rfl, rfl, rfl⟩
      · exact sameCount_departFrom e key userId now

theorem sameCount_foldl_endIdle (asOf : Instant) (keys : List String) :
    SameCount e (keys.foldl (endIdle asOf now) e) := by
  induction keys generalizing e with
  | nil => exact ⟨rfl, rfl, rfl⟩
  | cons key keys ih =>
      have hend : SameCount e (endIdle asOf now e key) := by
        rw [endIdle]
        split <;> exact ⟨rfl, rfl, rfl⟩
      exact hend.trans ih

theorem sameCount_foldl_removeSession (keys : List String) :
    SameCount e (keys.foldl removeSession e) := by
  induction keys generalizing e with
  | nil => exact ⟨rfl, rfl, rfl⟩
  | cons key keys ih =>
      have hremove : SameCount e (e.removeSession key) := ⟨rfl, rfl, rfl⟩
      exact hremove.trans ih

theorem sameCount_sweep (asOf : Instant) : SameCount e (e.sweep asOf now).2 := by
  have hswept : SameCount e (e.swept asOf now) :=
    (sameCount_foldl_endIdle asOf _).trans (sameCount_foldl_removeSession _)
  exact ⟨hswept.config, hswept.sessionsMade, hswept.changesMade⟩

/-- A creation gives out one session id, that of the session created. -/
theorem sessionsMade_create {hostId hostName assignmentId : String} {options : SessionOptions}
    {snapshot : Snapshot}
    (h : e.create hostId hostName assignmentId options now = .ok (snapshot, e')) :
    snapshot.id = e.freshSessionId ∧ e'.config = e.config ∧
      e'.sessionsMade = e.sessionsMade + 1 ∧ e'.changesMade = e.changesMade := by
  obtain ⟨settings, -, rfl, rfl⟩ := create_ok h
  have hvacate := sameCount_vacate e hostId now
  exact ⟨rfl, hvacate.config, congrArg (· + 1) hvacate.sessionsMade, hvacate.changesMade⟩

/-- Whether an answer tells of a change that was taken. -/
def isChange : Answer → Bool
  | .change _ => true
  | _ => false

/-- **No command changes the configuration.** A creation gives out one session id, and a change one
change id; there are no other ids. -/
theorem Outcome.counts {command : Command} {answer : Answer}
    (h : Outcome e now command answer e') :
    e'.config = e.config ∧ e'.sessionsMade = e.sessionsMade + (isCreation command).toNat ∧
      e'.changesMade = e.changesMade + (isChange answer).toNat := by
  have hsame : ∀ {e' : Engine}, SameCount e e' → e'.config = e.config ∧
      e'.sessionsMade = e.sessionsMade + 0 ∧ e'.changesMade = e.changesMade + 0 :=
    fun h => ⟨h.config, h.sessionsMade, h.changesMade⟩
  cases h with
  | create hok =>
      obtain ⟨-, hconfig, hsessions, hchanges⟩ := sessionsMade_create hok
      exact ⟨hconfig, hsessions, hchanges⟩
  | @join key userId _ _ _ _ hok =>
      obtain ⟨s, s', admission, -, -, -, rfl⟩ := join_ok hok
      have hwelcome : SameCount e (e.welcome key userId admission s' now) := ⟨rfl, rfl, rfl⟩
      exact hsame (hwelcome.trans (sameCount_leaveBehind _ _ _ _ now))
  | leave hok =>
      rw [leave_ok hok]
      exact hsame (sameCount_vacate e _ now)
  | change hok =>
      obtain ⟨s, s', -, -, -, rfl⟩ := change_ok hok
      exact ⟨rfl, rfl, rfl⟩
  | cursor hok =>
      obtain ⟨key, s, s', entry, -, -, -, rfl⟩ := cursor_ok hok
      exact ⟨rfl, rfl, rfl⟩
  | assist hok =>
      obtain ⟨s, s', entry, -, -, rfl⟩ := assist_ok hok
      exact ⟨rfl, rfl, rfl⟩
  | connect => exact ⟨rfl, rfl, rfl⟩
  | disconnect => exact ⟨rfl, rfl, rfl⟩
  | sweep asOf => exact hsame (sameCount_sweep asOf)

theorem Outcome.config_eq {command : Command} {answer : Answer}
    (h : Outcome e now command answer e') : e'.config = e.config :=
  h.counts.1

/-- The number of session ids given out never falls. -/
theorem Outcome.sessionsMade_le {command : Command} {answer : Answer}
    (h : Outcome e now command answer e') : e.sessionsMade ≤ e'.sessionsMade := by
  rw [h.counts.2.1]
  exact Nat.le_add_right _ _

end Engine

end CoEdit

import CoEdit.Session.Basic

/-!
# What Happens to a Session

The changes of a session's state. Each one checks first and changes the state only when all checks
have passed; a refusal is an `Error` and comes with no state. Times only push the marks of activity
forward.

## Main definitions

* `Session.join`, `Session.depart`, `Session.close`: coming, going, ending.
* `Session.edit`, `Session.moveCursor`, `Session.requestHelp`: what participants do.
* `Session.compact`: folding old changes into the base text.
-/

namespace CoEdit

open CoEdit.Time (Instant)

/-- What came of letting someone in. -/
structure Admission where
  /-- The roster entry afterwards. -/
  participant : Participant
  /-- Whether the session became active by it. -/
  activated : Bool
  /-- Whether the user was on the roster already. -/
  rejoined : Bool
  /-- Whether the user was online already. -/
  alreadyOnline : Bool
  deriving DecidableEq, Repr

/-- What came of someone's leaving. -/
structure Departure where
  /-- The roster entry afterwards. -/
  participant : Participant
  /-- Why the session ended by it, if it did. -/
  ended : Option EndReason
  deriving DecidableEq, Repr

namespace Session

/-- Notes activity. A clock that went back changes nothing. -/
def touch (s : Session) (now : Instant) : Session :=
  { s with updatedAt := s.updatedAt.later now }

/-- Changes the roster entry of a user. -/
def updateEntry (s : Session) (userId : String) (f : Participant → Participant) : Session :=
  { s with roster := s.roster.map fun p => if p.userId = userId then f p else p }

/-- The statuses in which people may come in and ask for help. -/
def openStatuses : List Status := [.waiting, .active]

/-- Refuses what needs another status than the session has. -/
def requireStatus (s : Session) (needed : List Status) : Except Error Unit :=
  if s.status ∈ needed then .ok () else .error (.sessionInactive s.id s.status needed)

/-- The roster entry of a user, or a refusal. -/
def requireEntry (s : Session) (userId : String) : Except Error Participant :=
  match s.participant? userId with
  | some p => .ok p
  | none => .error (.participantNotFound s.id userId)

/-- Puts a user online: in their old entry, which keeps its name and role, or in a new one at the
end of the roster. -/
def seat (s : Session) (userId userName : String) (role : Role) (now : Instant) : Session :=
  match s.participant? userId with
  | some _ => s.updateEntry userId fun p => { p.touch now with isOnline := true }
  | none =>
    let entry := Participant.enter userId userName role.onJoining (colorAt s.roster.length) now
    { s with roster := s.roster ++ [entry] }

/-- A waiting session with company becomes active. -/
def activate (s : Session) : Session :=
  if s.status = .waiting ∧ 1 < s.onlineCount then { s with status := .active } else s

/-- Lets a user in. A full session turns away whoever is not online in it yet, unless their role,
the one on the roster if there is one, is admitted regardless. -/
def join (s : Session) (userId userName : String) (role : Role) (now : Instant) :
    Except Error (Admission × Session) := do
  s.requireStatus openStatuses
  let before := s.participant? userId
  let effective := before.elim role (·.role)
  let alreadyOnline := s.isOnline userId
  if !alreadyOnline && s.maxParticipants ≤ s.onlineCount && !effective.bypassesCapacity then
    throw (.sessionFull s.id s.maxParticipants)
  let seated := s.seat userId userName role now
  let after := seated.activate.touch now
  let participant ← after.requireEntry userId
  pure ({ participant
          activated := seated.status = .waiting && after.status = .active
          rejoined := before.isSome
          alreadyOnline }, after)

/-- Ends the session; false if it had ended already. -/
def close (s : Session) (now : Instant) : Bool × Session :=
  if s.status = .ended then (false, s)
  else (true, { s with status := .ended }.touch now)

/-- Why the session should end now that a user is offline. -/
def reasonToEnd (s : Session) (userId : String) : Option EndReason :=
  if userId = s.hostId then some .hostLeft
  else if s.onlineCount = 0 then some .empty
  else none

/-- Puts a user offline, and ends the session with the host or with the last one online. -/
def depart (s : Session) (userId : String) (now : Instant) :
    Except Error (Departure × Session) := do
  let entry ← s.requireEntry userId
  let participant := { entry with isOnline := false }.touch now
  let absent := s.updateEntry userId fun p => { p with isOnline := false }.touch now
  match absent.reasonToEnd userId with
  | none => pure (⟨participant, none⟩, absent.touch now)
  | some reason =>
    let (ended, closed) := absent.close now
    pure (⟨participant, if ended then some reason else none⟩, closed.touch now)

/-- Applies an edit under the given change id. -/
def edit (s : Session) (changeId authorId : String) (op : Operation) (now : Instant) :
    Except Error (Change × Session) := do
  s.requireStatus [.active]
  if !s.isOnline authorId then throw (.notInSession authorId)
  let change : Change := ⟨changeId, authorId, now, op⟩
  let edited := { s with content := op.apply s.content, history := s.history ++ [change] }
  pure (change, (edited.updateEntry authorId (·.touch now)).touch now)

/-- Moves a participant's cursor. This is activity of the participant, not of the session. -/
def moveCursor (s : Session) (userId : String) (position : Nat) (now : Instant) :
    Except Error (Participant × Session) :=
  match (s.participant? userId).filter (·.isOnline) with
  | none => .error (.notInSession userId)
  | some entry =>
    let move := fun (p : Participant) => { p with cursor := position }.touch now
    .ok (move entry, s.updateEntry userId move)

/-- Raises the flag by which a participant, online or not, asks for a lecturer. -/
def requestHelp (s : Session) (userId : String) (now : Instant) :
    Except Error (Participant × Session) := do
  s.requireStatus openStatuses
  let entry ← s.requireEntry userId
  let flagged := { s.updateEntry userId (·.touch now) with lecturerAssistance := true }
  pure (entry.touch now, flagged.touch now)

/-- Folds all changes but the latest `keepLast` into the base text, and tells how many. -/
def compact (s : Session) (keepLast : Nat) : Nat × Session :=
  let cut := s.history.length - keepLast
  (cut, { s with
    base := foldChanges s.base (s.history.take cut)
    history := s.history.drop cut
    compacted := s.compacted + cut })

end Session

end CoEdit

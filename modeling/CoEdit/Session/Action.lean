import CoEdit.Session.Transitions

/-!
# Actions

Everything that changes a session, as data, with one function that takes an action. An action is
refused or gives its result along with the next state.

## Main definitions

* `Action`, `Result`, `Session.perform`.
-/

namespace CoEdit

open CoEdit.Time (Instant)

/-- What can be done to a session. -/
inductive Action
  | join (userId userName : String) (role : Role)
  | depart (userId : String)
  | close
  | edit (changeId authorId : String) (operation : Operation)
  | moveCursor (userId : String) (position : Nat)
  | requestHelp (userId : String)
  | compact (keepLast : Nat)
  deriving Repr

/-- What comes of an action. -/
inductive Result
  | joined (admission : Admission)
  | departed (departure : Departure)
  | closed (ended : Bool)
  | edited (change : Change)
  | entry (participant : Participant)
  | folded (count : Nat)
  deriving DecidableEq, Repr

/-- Takes an action at a time. -/
def Session.perform (s : Session) (now : Instant) : Action → Except Error (Result × Session)
  | .join userId userName role =>
    (s.join userId userName role now).map fun (admission, s) => (.joined admission, s)
  | .depart userId => (s.depart userId now).map fun (departure, s) => (.departed departure, s)
  | .close =>
    let (ended, s) := s.close now
    .ok (.closed ended, s)
  | .edit changeId authorId operation =>
    (s.edit changeId authorId operation now).map fun (change, s) => (.edited change, s)
  | .moveCursor userId position =>
    (s.moveCursor userId position now).map fun (participant, s) => (.entry participant, s)
  | .requestHelp userId =>
    (s.requestHelp userId now).map fun (participant, s) => (.entry participant, s)
  | .compact keepLast =>
    let (count, s) := s.compact keepLast
    .ok (.folded count, s)

end CoEdit

/-!
# The Status of a Session

A session waits for a second participant, is active from then on, and ends once and for all.

## Main definitions

* `Status`, with `Status.isOpen`.
* `EndReason`: why a session ended.
-/

namespace CoEdit

/-- How far a session has come. -/
inductive Status
  | waiting
  | active
  | ended
  deriving DecidableEq, Repr, Inhabited

namespace Status

/-- The name of a status. -/
def name : Status → String
  | .waiting => "waiting"
  | .active => "active"
  | .ended => "ended"

/-- Anything but ended. -/
def isOpen : Status → Bool
  | .ended => false
  | _ => true

end Status

/-- Why a session ended. -/
inductive EndReason
  | hostLeft
  | empty
  | idle
  deriving DecidableEq, Repr

/-- The name of a reason. -/
def EndReason.name : EndReason → String
  | .hostLeft => "host_left"
  | .empty => "empty"
  | .idle => "idle"

end CoEdit

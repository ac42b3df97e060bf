import CoEdit.Change
import CoEdit.Participant
import CoEdit.Session.Status

/-!
# Notices and Facts

What a session tells the world. A *notice* goes to the participants who are online, at once, and
carries what their views need. A *fact* goes into the recording of the session and carries what a
replay needs.

## Main definitions

* `Notice`, with `Notice.name`.
* `Fact`, and `Entry`, a fact with its place and time in a recording.
-/

namespace CoEdit

open CoEdit.Time (Instant)

/-- What participants are told. -/
inductive Notice
  | userJoined (userId userName : String) (role : Role) (color : String) (onlineCount : Nat)
      (status : Status)
  | userLeft (userId userName : String) (onlineCount : Nat)
  | codeChange (change : Change) (content : String)
  | cursorUpdate (userId userName : String) (position : Nat) (color : String)
  | helpRequested (userId userName : String) (message : Option String)
  | sessionEnded (reason : EndReason)
  deriving DecidableEq, Repr

/-- The name of a kind of notice. -/
def Notice.name : Notice → String
  | .userJoined .. => "user_joined"
  | .userLeft .. => "user_left"
  | .codeChange .. => "code_change"
  | .cursorUpdate .. => "cursor_update"
  | .helpRequested .. => "lecturer_assistance_requested"
  | .sessionEnded _ => "session_ended"

/-- What a recording keeps. -/
inductive Fact
  | created (hostId hostName title language seed : String)
  | joined (userId userName : String) (role : Role)
  | left (userId : String)
  | changed (change : Change)
  | helpRequested (userId : String) (message : Option String)
  | ended (reason : EndReason)
  deriving DecidableEq, Repr

/-- A fact with its number in the recording, counted from zero, and its time. -/
structure Entry where
  sequence : Nat
  timestamp : Instant
  fact : Fact
  deriving DecidableEq, Repr

end CoEdit

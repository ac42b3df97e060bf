import CoEdit.Notice
import CoEdit.Session.Basic

/-!
# What a Client Sees

A client that has a snapshot of a session and then receives its notices, one after the other, can
keep its own view of the session up to date. The view follows from the notices alone.

## Main definitions

* `ClientView`, `Seat`, `ClientView.ofSnapshot`.
* `ClientView.receive`: the view after one more notice.
* `ClientView.follow`: the view after a list of notices.
-/

namespace CoEdit

/-- A participant as a client shows them. -/
structure Seat where
  userId : String
  userName : String
  role : Role
  color : String
  isOnline : Bool
  cursor : Nat
  deriving DecidableEq, Repr

/-- A session as a client shows it. -/
structure ClientView where
  content : String
  status : Status
  lecturerAssistance : Bool
  changeCount : Nat
  seats : List Seat
  deriving DecidableEq, Repr

/-- A roster entry as a client shows it. -/
def Participant.seat (p : Participant) : Seat :=
  ⟨p.userId, p.userName, p.role, p.color, p.isOnline, p.cursor⟩

namespace ClientView

/-- The view of a client that has just got a snapshot. -/
def ofSnapshot (s : Snapshot) : ClientView :=
  ⟨s.content, s.status, s.lecturerAssistance, s.changeCount, s.participants.map Participant.seat⟩

/-- Changes the seat of a user. -/
def updateSeat (v : ClientView) (userId : String) (f : Seat → Seat) : ClientView :=
  { v with seats := v.seats.map fun s => if s.userId = userId then f s else s }

/-- Puts a user online, in their seat or in a new one. -/
def seatUser (v : ClientView) (userId userName : String) (role : Role) (color : String) :
    ClientView :=
  if v.seats.any (·.userId = userId) then v.updateSeat userId ({ · with isOnline := true })
  else { v with seats := v.seats ++ [⟨userId, userName, role, color, true, 0⟩] }

/-- The view after a notice. -/
def receive (v : ClientView) : Notice → ClientView
  | .userJoined userId userName role color _ status =>
    { v.seatUser userId userName role color with status }
  | .userLeft userId _ _ => v.updateSeat userId ({ · with isOnline := false })
  | .codeChange _ content => { v with content, changeCount := v.changeCount + 1 }
  | .cursorUpdate userId _ position _ => v.updateSeat userId ({ · with cursor := position })
  | .helpRequested .. => { v with lecturerAssistance := true }
  | .sessionEnded _ => { v with status := .ended }

/-- The view after a list of notices, the first one first. -/
def follow (v : ClientView) (notices : List Notice) : ClientView :=
  notices.foldl receive v

end ClientView

end CoEdit

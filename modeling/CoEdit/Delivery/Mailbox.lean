import CoEdit.Notice

/-!
# Messages and Mailboxes

A message is a notice with the session it concerns, its number among all messages, and the time at
which it was sent. A mailbox holds what was delivered and not yet taken out. A bounded mailbox
refuses messages while it is full, and a closed one refuses them for good.

## Main definitions

* `Message`, `Delivery`, `Dispatch`.
* `Mailbox`, with `Mailbox.offer?`, `Mailbox.drain`, `Mailbox.close`.
-/

namespace CoEdit

/-- A notice on its way. The time is in whole milliseconds since the start of 1970. -/
structure Message where
  sessionId : String
  sequence : Nat
  timestamp : Int
  notice : Notice
  deriving DecidableEq, Repr

/-- A message with the user it is for. -/
structure Delivery where
  userId : String
  message : Message
  deriving DecidableEq, Repr

/-- A message that was sent, with its audience: the users to whose connections it was offered. -/
structure Dispatch where
  message : Message
  audience : List String
  deriving DecidableEq, Repr

/-- What was delivered over a connection, oldest first. There is no bound if `capacity` is none. -/
structure Mailbox where
  capacity : Option Nat
  isOpen : Bool
  held : List Delivery
  deriving DecidableEq, Repr

namespace Mailbox

/-- An open mailbox with nothing in it. A bound is at least one. -/
def fresh (capacity : Option Nat) : Mailbox :=
  ⟨capacity.map (max 1), true, []⟩

/-- A mailbox that takes nothing. -/
def shut : Mailbox := ⟨none, false, []⟩

/-- Whether the mailbox takes another message. -/
def accepts (m : Mailbox) : Bool :=
  m.isOpen && m.capacity.all (m.held.length < ·)

/-- The mailbox with one more message, unless it refuses it. -/
def offer? (m : Mailbox) (d : Delivery) : Option Mailbox :=
  if m.accepts then some { m with held := m.held ++ [d] } else none

/-- Takes everything out. -/
def drain (m : Mailbox) : List Delivery × Mailbox :=
  (m.held, { m with held := [] })

/-- Closes the mailbox; what it held is gone. -/
def close (_ : Mailbox) : Mailbox := shut

end Mailbox

end CoEdit

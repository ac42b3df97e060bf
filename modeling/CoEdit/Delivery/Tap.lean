import CoEdit.Delivery.Gateway

/-!
# Taps

A tap reads all messages of a gateway, whomever they are for, from the moment it is opened. It can
lag behind by as many messages as the gateway has room for; of what is lost beyond that it learns
only the number.

## Main definitions

* `Tap`, `Gateway.openTap`, `Tap.read`.
-/

namespace CoEdit

/-- A reader of the log; `next` is the number of the message that it reads next. -/
structure Tap where
  next : Nat
  deriving DecidableEq, Repr

/-- What a tap has to read: how many messages it lost, and those that follow. -/
structure TapReading where
  lost : Nat
  messages : List Message
  deriving DecidableEq, Repr

/-- A tap that reads what is sent from now on. -/
def Gateway.openTap (g : Gateway) : Tap :=
  ⟨g.log.length⟩

/-- Reads everything up to now. -/
def Tap.read (tap : Tap) (g : Gateway) : TapReading × Tap :=
  let unread := g.log.drop tap.next
  let lost := unread.length - g.tapCapacity
  (⟨lost, (unread.drop lost).map (·.message)⟩, ⟨g.log.length⟩)

end CoEdit

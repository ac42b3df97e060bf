import CoEdit.Delivery.Mailbox
import CoEdit.Table

/-!
# The Gateway

Sends the notices of sessions to the people who are subscribed to them. Every message gets the next
number, is added to the log, and is offered to the connections of the session's subscribers, except
an excluded one. A connection that refuses a message loses it; nobody else is affected.

A user has at most one connection. Connections are mailboxes, known by number, so that several
users may share one.

## Main definitions

* `Gateway`, `Line`, `Report`.
* `Gateway.new`, `Gateway.build?`: a gateway, and one if the channel of its taps can be made.
* `Gateway.connect`, `Gateway.disconnect`, `Gateway.drain`, `Gateway.hangUp`: connections.
* `Gateway.subscribe`, `Gateway.unsubscribe`, `Gateway.dropSession`: subscriptions.
* `Gateway.recipients`, `Gateway.broadcast`: who gets a message, and sending it.
-/

namespace CoEdit

open CoEdit.Time (Instant)

/-- The state of the gateway. `log` holds everything that was sent, oldest first. -/
structure Gateway where
  tapCapacity : Nat
  mailboxes : List Mailbox
  connections : Table Nat
  subscriptions : Table (List String)
  log : List Dispatch
  nextSequence : Nat
  messagesSent : Nat
  deliveryFailures : Nat

/-- The kinds of connection. -/
inductive Line
  /-- A mailbox of its own without a bound. -/
  | unbounded
  /-- A mailbox of its own for that many messages. -/
  | bounded (capacity : Nat)
  /-- A connection whose other end is gone. -/
  | closed
  /-- A mailbox that is there already. -/
  | shared (mailbox : Nat)
  deriving DecidableEq, Repr

/-- What came of sending a message. -/
structure Report where
  sequence : Nat
  delivered : Nat
  failed : Nat
  deriving DecidableEq, Repr

/-- The least power of two that is no less than `n`; `fuel` doublings are tried. -/
def powerOfTwoFrom : Nat → Nat → Nat → Nat
  | 0, power, _ => power
  | fuel + 1, power, n => if n ≤ power then power else powerOfTwoFrom fuel (2 * power) n

/-- The room of a tap: at least the capacity asked for, and a power of two. -/
def tapRoom (capacity : Nat) : Nat :=
  powerOfTwoFrom 64 1 capacity

/-- The largest capacity of a channel that taps can read from: half the largest word of 64 bits. -/
def channelMax : Nat := 9223372036854775807

namespace Gateway

/-- A gateway without connections. -/
def new (tapCapacity : Nat) : Gateway where
  tapCapacity := tapRoom tapCapacity
  mailboxes := []
  connections := Table.empty
  subscriptions := Table.empty
  log := []
  nextSequence := 0
  messagesSent := 0
  deliveryFailures := 0

/-- A gateway without connections, if the channel that its taps read from can be made. `allots`
tells for which capacities that is so; a tap that is to hold nothing holds one message. -/
def build? (allots : Nat → Bool) (tapCapacity : Nat) : Option Gateway :=
  if allots (max tapCapacity 1) then some (new tapCapacity) else none

/-! ### Connections -/

/-- Adds a mailbox, and gives its number. -/
def addMailbox (g : Gateway) (m : Mailbox) : Nat × Gateway :=
  (g.mailboxes.length, { g with mailboxes := g.mailboxes ++ [m] })

/-- The mailbox behind a line. -/
def openLine (g : Gateway) : Line → Nat × Gateway
  | .unbounded => g.addMailbox (.fresh none)
  | .bounded capacity => g.addMailbox (.fresh (some capacity))
  | .closed => g.addMailbox .shut
  | .shared mailbox => (mailbox, g)

/-- Connects a user, in place of an earlier connection, and gives the number of the mailbox. -/
def connect (g : Gateway) (userId : String) (line : Line) : Nat × Gateway :=
  let (mailbox, g) := g.openLine line
  (mailbox, { g with connections := g.connections.put userId mailbox })

/-- Disconnects a user; false if there was no connection. -/
def disconnect (g : Gateway) (userId : String) : Bool × Gateway :=
  (g.connections.contains userId, { g with connections := g.connections.erase userId })

/-- Whether a user is connected. -/
def isConnected (g : Gateway) (userId : String) : Bool :=
  g.connections.contains userId

/-- Takes out what a mailbox holds. -/
def drain (g : Gateway) (mailbox : Nat) : List Delivery × Gateway :=
  match g.mailboxes[mailbox]? with
  | none => ([], g)
  | some m => (m.drain.1, { g with mailboxes := g.mailboxes.set mailbox m.drain.2 })

/-- Closes a mailbox. Connections to it remain and fail from now on. -/
def hangUp (g : Gateway) (mailbox : Nat) : Gateway :=
  { g with mailboxes := g.mailboxes.modify mailbox Mailbox.close }

/-! ### Subscriptions -/

/-- The subscribers of a session, in the order in which they subscribed. -/
def subscriptionsOf (g : Gateway) (sessionId : String) : List String :=
  (g.subscriptions.get? sessionId).getD []

/-- The subscribers of a session, in ascending order. -/
def subscribers (g : Gateway) (sessionId : String) : List String :=
  (g.subscriptionsOf sessionId).mergeSort fun x y => x ≤ y

/-- Subscribes a user to a session, if they are not yet. -/
def subscribe (g : Gateway) (sessionId userId : String) : Gateway :=
  let users := g.subscriptionsOf sessionId
  if userId ∈ users then g
  else { g with subscriptions := g.subscriptions.put sessionId (users ++ [userId]) }

/-- Ends a subscription. A session without subscribers is forgotten. -/
def unsubscribe (g : Gateway) (sessionId userId : String) : Gateway :=
  match g.subscriptions.get? sessionId with
  | none => g
  | some users =>
    let users := users.filter (· ≠ userId)
    if users.isEmpty then { g with subscriptions := g.subscriptions.erase sessionId }
    else { g with subscriptions := g.subscriptions.put sessionId users }

/-- Ends all subscriptions to a session. -/
def dropSession (g : Gateway) (sessionId : String) : Gateway :=
  { g with subscriptions := g.subscriptions.erase sessionId }

/-! ### Sending -/

/-- The users who get a message of a session, with their mailboxes: subscribed, connected, and not
excluded. -/
def recipients (g : Gateway) (sessionId : String) (exclude : Option String) :
    List (String × Nat) :=
  ((g.subscribers sessionId).filter (some · ≠ exclude)).filterMap fun userId =>
    (g.connections.get? userId).map (userId, ·)

/-- Offers a message to a mailbox; false if it is refused. -/
def offer (mailboxes : List Mailbox) (mailbox : Nat) (d : Delivery) : Bool × List Mailbox :=
  match mailboxes[mailbox]?.bind (·.offer? d) with
  | none => (false, mailboxes)
  | some m => (true, mailboxes.set mailbox m)

/-- Offers a message to each recipient in turn, counting what was taken and what was refused. -/
def deliver (mailboxes : List Mailbox) (message : Message) :
    List (String × Nat) → Nat × Nat × List Mailbox
  | [] => (0, 0, mailboxes)
  | (userId, mailbox) :: rest =>
    let (taken, mailboxes) := offer mailboxes mailbox ⟨userId, message⟩
    let (delivered, failed, mailboxes) := deliver mailboxes message rest
    if taken then (delivered + 1, failed, mailboxes) else (delivered, failed + 1, mailboxes)

/-- Sends a notice of a session to its subscribers. -/
def broadcast (g : Gateway) (sessionId : String) (notice : Notice) (exclude : Option String)
    (now : Instant) : Report × Gateway :=
  let message : Message := ⟨sessionId, g.nextSequence, now.toMillis, notice⟩
  let recipients := g.recipients sessionId exclude
  let (delivered, failed, mailboxes) := deliver g.mailboxes message recipients
  (⟨message.sequence, delivered, failed⟩,
    { g with
      mailboxes
      log := g.log ++ [⟨message, recipients.map (·.1)⟩]
      nextSequence := g.nextSequence + 1
      messagesSent := g.messagesSent + 1
      deliveryFailures := g.deliveryFailures + failed })

end Gateway

end CoEdit

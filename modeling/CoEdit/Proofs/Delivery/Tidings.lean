import CoEdit.Delivery.Gateway
import Mathlib.Data.List.Basic

/-!
# What Is Sent Besides Cursors

A gateway tells of cursors as it tells of everything else, and takes the next number for every
message. Leave out the messages about cursors, and do not look at the numbers: what is left does not
depend on how many of them there were, nor does who gets what.

## Main definitions

* `Gateway.tidings`: what was sent, without the messages about cursors and without numbers.
* `Gateway.atRest`: the gateway as it is for those who get the tidings only.

## Main results

* `atRest_broadcast_of_isCursorUpdate`: a message about a cursor changes nothing.
* `atRest_broadcast`, `atRest_subscribe`, `connect_of_atRest`, …: all else that is done to a gateway
  comes to the same.
-/

namespace CoEdit

open CoEdit.Time (Instant)

/-- Whether a notice tells of a cursor. -/
def Notice.isCursorUpdate : Notice → Bool
  | .cursorUpdate .. => true
  | _ => false

/-- A message without its number. -/
def Dispatch.unnumbered (d : Dispatch) : Dispatch :=
  { d with message := { d.message with sequence := 0 } }

namespace Gateway

variable {g : Gateway} {sessionId userId : String}

/-- What matters of the messages sent: those about cursors are left out, and nobody looks at the
numbers. -/
def tidingsIn (log : List Dispatch) : List Dispatch :=
  (log.filter (!·.message.notice.isCursorUpdate)).map Dispatch.unnumbered

/-- The messages that were sent, without those about cursors and without their numbers. -/
def tidings (g : Gateway) : List Dispatch :=
  tidingsIn g.log

theorem tidingsIn_append (log log' : List Dispatch) :
    tidingsIn (log ++ log') = tidingsIn log ++ tidingsIn log' := by
  rw [tidingsIn, List.filter_append, List.map_append]
  rfl

/-- A gateway without the messages about cursors. It has as many mailboxes, but what is in them is
not known. -/
def atRest (g : Gateway) : Gateway :=
  { g with
    mailboxes := List.replicate g.mailboxes.length .shut
    log := g.tidings
    nextSequence := 0
    messagesSent := 0
    deliveryFailures := 0 }

/-! ### What is done to a gateway -/

theorem length_offer (mailboxes : List Mailbox) (mailbox : Nat) (d : Delivery) :
    (offer mailboxes mailbox d).2.length = mailboxes.length := by
  rw [offer]
  split
  · rfl
  · exact List.length_set

theorem length_deliver (mailboxes : List Mailbox) (message : Message)
    (recipients : List (String × Nat)) :
    (deliver mailboxes message recipients).2.2.length = mailboxes.length := by
  induction recipients generalizing mailboxes with
  | nil => rfl
  | cons r recipients ih =>
      rw [deliver]
      dsimp only
      split <;> exact (ih _).trans (length_offer _ _ _)

theorem atRest_broadcast (g : Gateway) (sessionId : String) (notice : Notice)
    (exclude : Option String) (now : Instant) :
    (g.broadcast sessionId notice exclude now).2.atRest =
      { g.atRest with
        log := g.atRest.log ++ tidingsIn [⟨⟨sessionId, 0, now.toMillis, notice⟩,
          (g.atRest.recipients sessionId exclude).map (·.1)⟩] } := by
  have hlog : (g.broadcast sessionId notice exclude now).2.tidings =
      g.tidings ++ tidingsIn [⟨⟨sessionId, 0, now.toMillis, notice⟩,
        (g.atRest.recipients sessionId exclude).map (·.1)⟩] := by
    refine (tidingsIn_append _ _).trans (congrArg (g.tidings ++ ·) ?_)
    rw [tidingsIn, tidingsIn, List.filter_singleton, List.filter_singleton]
    cases notice.isCursorUpdate <;> rfl
  have hlength : (g.broadcast sessionId notice exclude now).2.mailboxes.length =
      g.mailboxes.length := length_deliver _ _ _
  rw [atRest, hlog, hlength]
  rfl

/-- Nothing is heard of a message about a cursor. -/
theorem atRest_broadcast_of_isCursorUpdate {notice : Notice} (h : notice.isCursorUpdate = true)
    (sessionId : String) (exclude : Option String) (now : Instant) :
    (g.broadcast sessionId notice exclude now).2.atRest = g.atRest := by
  rw [atRest_broadcast, tidingsIn, List.filter_singleton, h]
  exact congrArg (fun log => { g.atRest with log }) (List.append_nil _)

theorem atRest_subscribe (g : Gateway) (sessionId userId : String) :
    (g.subscribe sessionId userId).atRest = g.atRest.subscribe sessionId userId := by
  by_cases h : userId ∈ g.subscriptionsOf sessionId
  · rw [subscribe, if_pos h]
    exact (if_pos h).symm
  · rw [subscribe, if_neg h]
    exact (if_neg h).symm

theorem atRest_unsubscribe (g : Gateway) (sessionId userId : String) :
    (g.unsubscribe sessionId userId).atRest = g.atRest.unsubscribe sessionId userId := by
  have hknown : g.atRest.subscriptions.get? sessionId = g.subscriptions.get? sessionId := rfl
  rw [unsubscribe, unsubscribe, hknown]
  cases g.subscriptions.get? sessionId with
  | none => rfl
  | some users =>
      dsimp only
      split <;> rfl

theorem length_mailboxes_of_atRest {g' : Gateway} (h : g'.atRest = g.atRest) :
    g'.mailboxes.length = g.mailboxes.length := by
  have hmailboxes := congrArg (fun g : Gateway => g.mailboxes.length) h
  simpa [atRest] using hmailboxes

theorem openLine_of_atRest {g' : Gateway} (h : g'.atRest = g.atRest) (line : Line) :
    (g'.openLine line).1 = (g.openLine line).1 ∧
      (g'.openLine line).2.atRest = (g.openLine line).2.atRest := by
  have hlength := length_mailboxes_of_atRest h
  have hadd : ∀ (g : Gateway) (m : Mailbox), (g.addMailbox m).2.atRest =
      { g.atRest with mailboxes := List.replicate (g.mailboxes.length + 1) .shut } := by
    intro g m
    simp only [addMailbox, atRest, List.length_append, List.length_singleton]
    rfl
  cases line with
  | shared mailbox => exact ⟨rfl, h⟩
  | unbounded | bounded | closed =>
      refine ⟨hlength, ?_⟩
      rw [openLine, openLine, hadd, hadd, h, hlength]

theorem connect_of_atRest {g' : Gateway} (h : g'.atRest = g.atRest) (userId : String)
    (line : Line) :
    (g'.connect userId line).1 = (g.connect userId line).1 ∧
      (g'.connect userId line).2.atRest = (g.connect userId line).2.atRest := by
  obtain ⟨hnumber, hopened⟩ := openLine_of_atRest h line
  rw [connect, connect]
  generalize g.openLine line = opened at hnumber hopened ⊢
  generalize g'.openLine line = opened' at hnumber hopened ⊢
  obtain ⟨_, g₁⟩ := opened
  obtain ⟨number, g₂⟩ := opened'
  obtain rfl : number = _ := hnumber
  have hconnected := congrArg (fun g : Gateway =>
    { g with connections := g.connections.put userId number }) hopened
  exact ⟨rfl, hconnected⟩

theorem atRest_drain (g : Gateway) (mailbox : Nat) : (g.drain mailbox).2.atRest = g.atRest := by
  rw [drain]
  split
  · rfl
  · rw [atRest, List.length_set]
    rfl

theorem atRest_hangUp (g : Gateway) (mailbox : Nat) : (g.hangUp mailbox).atRest = g.atRest := by
  rw [hangUp, atRest, List.length_modify]
  rfl

end Gateway

end CoEdit

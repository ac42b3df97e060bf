import CoEdit.Proofs.Delivery.Subscriptions
import Mathlib.Data.List.Nodup

/-!
# Sending

What sending a message does to the gateway: the message is logged under the next number, and every
mailbox is offered the message for each of its users in the audience. A mailbox takes what it is
offered unless it is full or closed.

## Main definitions

* `Mailbox.takeAll`: a mailbox that has been offered some messages.
* `Dispatch.deliveries`: what a mailbox is offered of a message that was sent.
* `Gateway.Sends`: some messages are sent, one after the other.
* `Gateway.Numbered`: the messages in the log are numbered from zero.

## Main results

* `takeAll_of_unbounded`, `exists_takeAll`: what a mailbox holds afterwards.
* `sends_broadcast`: a broadcast sends one message.
* `mem_audience_iff`, `nodup_audience`: to whom it is sent.
* `Numbered.broadcast`: the numbering goes on.
-/

namespace CoEdit

open CoEdit.Time (Instant)

/-! ### Mailboxes -/

namespace Mailbox

variable {m : Mailbox}

/-- The mailbox after it has been offered a message. -/
def take (m : Mailbox) (d : Delivery) : Mailbox :=
  (m.offer? d).getD m

/-- The mailbox after it has been offered some messages, the first one first. -/
def takeAll (m : Mailbox) (deliveries : List Delivery) : Mailbox :=
  deliveries.foldl take m

@[simp] theorem takeAll_nil : m.takeAll [] = m := rfl

theorem takeAll_append (first second : List Delivery) :
    m.takeAll (first ++ second) = (m.takeAll first).takeAll second :=
  List.foldl_append

/-- An open mailbox without a bound takes everything. -/
theorem takeAll_of_unbounded (hopen : m.isOpen = true) (hbound : m.capacity = none)
    (deliveries : List Delivery) :
    m.takeAll deliveries = { m with held := m.held ++ deliveries } := by
  induction deliveries generalizing m with
  | nil => simp
  | cons d rest ih =>
      have htake : m.take d = { m with held := m.held ++ [d] } := by
        simp [take, offer?, accepts, hopen, hbound]
      have hrest := ih (m := m.take d) (by rw [htake]; exact hopen) (by rw [htake]; exact hbound)
      change (m.take d).takeAll rest = _
      rw [hrest, htake]
      simp

/-- Every mailbox takes some of what it is offered, in order, and puts it at the end. -/
theorem exists_takeAll (m : Mailbox) (deliveries : List Delivery) :
    ∃ taken, taken.Sublist deliveries ∧
      m.takeAll deliveries = { m with held := m.held ++ taken } := by
  induction deliveries generalizing m with
  | nil => exact ⟨[], List.Sublist.refl _, by simp⟩
  | cons d rest ih =>
      obtain ⟨taken, hsub, hheld⟩ := ih (m.take d)
      change ∃ taken, _ ∧ (m.take d).takeAll rest = _
      rw [hheld]
      cases hoffer : m.offer? d with
      | none =>
          have htake : m.take d = m := by rw [take, hoffer, Option.getD_none]
          exact ⟨taken, hsub.cons d, by rw [htake]⟩
      | some m' =>
          have htake : m.take d = { m with held := m.held ++ [d] } := by
            rw [offer?] at hoffer
            split at hoffer
            · obtain rfl := Option.some.inj hoffer
              rw [take, offer?]
              simp_all
            · cases hoffer
          exact ⟨d :: taken, hsub.cons_cons d, by simp [htake]⟩

end Mailbox

/-- What a mailbox is offered of a message that was sent: one delivery for each user in the audience
who is connected to it. -/
def Dispatch.deliveries (d : Dispatch) (connections : Table Nat) (mailbox : Nat) :
    List Delivery :=
  (d.audience.filter (connections.get? · = some mailbox)).map (⟨·, d.message⟩)

namespace Gateway

variable {g g' : Gateway} {sessionId userId key : String} {notice : Notice}
  {exclude : Option String} {now : Instant}

/-! ### Deliveries -/

/-- An offer concerns one mailbox. -/
theorem getElem?_offer (mailboxes : List Mailbox) (mailbox k : Nat) (d : Delivery) :
    (offer mailboxes mailbox d).2[k]? =
      if k = mailbox then mailboxes[k]?.map (·.take d) else mailboxes[k]? := by
  rw [offer]
  split
  · next hnone =>
    split
    · next hk =>
      subst hk
      cases hm : mailboxes[k]? with
      | none => rfl
      | some m =>
          have hrefused : m.offer? d = none := by simpa [hm] using hnone
          rw [Option.map_some, Mailbox.take, hrefused, Option.getD_none]
    · rfl
  · next m' hsome =>
    obtain ⟨m, hm, htaken⟩ := Option.bind_eq_some_iff.mp hsome
    obtain ⟨hlt, -⟩ := List.getElem?_eq_some_iff.mp hm
    split
    · next hk =>
      subst hk
      rw [List.getElem?_set_self hlt, hm, Option.map_some, Mailbox.take, htaken, Option.getD_some]
    · next hk => exact List.getElem?_set_ne (Ne.symm hk)

/-- Every mailbox is offered the message for those recipients who lead to it, and nothing else. -/
theorem getElem?_deliver (mailboxes : List Mailbox) (message : Message)
    (recipients : List (String × Nat)) (k : Nat) :
    (deliver mailboxes message recipients).2.2[k]? =
      mailboxes[k]?.map
        (·.takeAll ((recipients.filter (·.2 = k)).map fun r => ⟨r.1, message⟩)) := by
  induction recipients generalizing mailboxes with
  | nil => simp [deliver]
  | cons r rest ih =>
      have hrest : (deliver mailboxes message (r :: rest)).2.2 =
          (deliver (offer mailboxes r.2 ⟨r.1, message⟩).2 message rest).2.2 := by
        rw [deliver]
        dsimp only
        split <;> rfl
      rw [hrest, ih, getElem?_offer]
      by_cases hk : k = r.2
      · subst hk
        rw [if_pos rfl, Option.map_map, List.filter_cons_of_pos (by simp)]
        rfl
      · rw [if_neg hk, List.filter_cons_of_neg (by simpa using Ne.symm hk)]

/-! ### Sending -/

/-- The gateway sends some messages, one after the other: they are logged, and every mailbox is
offered what is for its users. -/
structure Sends (g : Gateway) (sent : List Dispatch) (g' : Gateway) : Prop where
  log : g'.log = g.log ++ sent
  connections : g'.connections = g.connections
  mailboxes : ∀ k, g'.mailboxes[k]? =
    g.mailboxes[k]?.map fun m : Mailbox => m.takeAll (sent.flatMap (·.deliveries g.connections k))

/-- Nothing is sent by what leaves the log, the connections and the mailboxes alone. -/
theorem Sends.nil (hlog : g'.log = g.log) (hconnections : g'.connections = g.connections)
    (hmailboxes : g'.mailboxes = g.mailboxes) : g.Sends [] g' where
  log := by simp [hlog]
  connections := hconnections
  mailboxes k := by simp [hmailboxes]

theorem Sends.append {g₁ g₂ g₃ : Gateway} {first second : List Dispatch}
    (h₁ : g₁.Sends first g₂) (h₂ : g₂.Sends second g₃) : g₁.Sends (first ++ second) g₃ where
  log := by rw [h₂.log, h₁.log, List.append_assoc]
  connections := h₂.connections.trans h₁.connections
  mailboxes k := by
    rw [h₂.mailboxes, h₁.mailboxes, h₁.connections, Option.map_map, List.flatMap_append]
    refine congrArg (fun f => g₁.mailboxes[k]?.map f) (funext fun m => ?_)
    exact (Mailbox.takeAll_append _ _).symm

/-- The users to whom a message of a session is sent now. -/
def audience (g : Gateway) (sessionId : String) (exclude : Option String) : List String :=
  (g.recipients sessionId exclude).map (·.1)

/-- The audience is picked from the subscribers. -/
theorem audience_eq (g : Gateway) (sessionId : String) (exclude : Option String) :
    g.audience sessionId exclude =
      ((g.subscribers sessionId).filter (some · ≠ exclude)).filter (g.isConnected ·) := by
  rw [audience, recipients, List.map_filterMap]
  induction (g.subscribers sessionId).filter (some · ≠ exclude) with
  | nil => rfl
  | cons user rest ih =>
      rw [List.filterMap_cons, List.filter_cons, ih, isConnected, Table.contains]
      cases g.connections.get? user <;> rfl

/-- Those who get a message over one mailbox are subscribers, whoever else is connected. -/
theorem filter_audience (g : Gateway) (sessionId : String) (exclude : Option String) (k : Nat) :
    (g.audience sessionId exclude).filter (g.connections.get? · = some k) =
      ((g.subscribers sessionId).filter (some · ≠ exclude)).filter
        (g.connections.get? · = some k) := by
  rw [audience_eq, List.filter_filter]
  refine List.filter_congr fun user _ => ?_
  by_cases hconnected : g.connections.get? user = some k
  · simp [hconnected, isConnected, Table.contains]
  · simp [hconnected]

/-- A message is sent to those who are subscribed, connected, and not excluded. -/
theorem mem_audience_iff :
    userId ∈ g.audience sessionId exclude ↔
      userId ∈ g.subscriptionsOf sessionId ∧ g.isConnected userId = true ∧
        exclude ≠ some userId := by
  rw [audience_eq, List.mem_filter, List.mem_filter, mem_subscribers_iff, decide_eq_true_iff,
    and_assoc, and_comm (a := some userId ≠ exclude), ne_comm]

/-- Recipients are in the audience with their own mailboxes. -/
theorem recipients_eq (g : Gateway) (sessionId : String) (exclude : Option String) (k : Nat) :
    ((g.recipients sessionId exclude).filter (·.2 = k)).map (·.1) =
      (g.audience sessionId exclude).filter (g.connections.get? · = some k) := by
  rw [audience, List.filter_map]
  refine congrArg (List.map Prod.fst) (List.filter_congr fun r hr => ?_)
  obtain ⟨user, -, hmap⟩ := List.mem_filterMap.mp hr
  obtain ⟨mailbox, hmailbox, rfl⟩ := Option.map_eq_some_iff.mp hmap
  simp [hmailbox]

/-- **A broadcast sends one message**, under the next number, to the audience of its session. -/
theorem sends_broadcast (g : Gateway) (sessionId : String) (notice : Notice)
    (exclude : Option String) (now : Instant) :
    g.Sends [⟨⟨sessionId, g.nextSequence, now.toMillis, notice⟩, g.audience sessionId exclude⟩]
      (g.broadcast sessionId notice exclude now).2 where
  log := rfl
  connections := rfl
  mailboxes k := by
    change (deliver g.mailboxes _ (g.recipients sessionId exclude)).2.2[k]? = _
    rw [getElem?_deliver, List.flatMap_singleton, Dispatch.deliveries, ← recipients_eq,
      List.map_map]
    rfl

/-! ### No one twice -/

/-- Nobody is subscribed to a session twice. -/
def DistinctSubscribers (g : Gateway) : Prop :=
  ∀ key, (g.subscriptionsOf key).Nodup

theorem DistinctSubscribers.subscribe (h : g.DistinctSubscribers) :
    (g.subscribe sessionId userId).DistinctSubscribers := by
  intro key
  rw [subscriptionsOf_subscribe]
  split
  · next hnew =>
    exact List.Nodup.append (h key) (List.nodup_singleton userId)
      (List.disjoint_singleton.mpr hnew.2)
  · exact h key

theorem DistinctSubscribers.unsubscribe (h : g.DistinctSubscribers) :
    (g.unsubscribe sessionId userId).DistinctSubscribers := by
  intro key
  rw [subscriptionsOf_unsubscribe]
  split
  · exact (h key).filter _
  · exact h key

theorem DistinctSubscribers.dropSession (h : g.DistinctSubscribers) :
    (g.dropSession sessionId).DistinctSubscribers := by
  intro key
  simp only [Gateway.dropSession, subscriptionsOf, Table.get?_erase]
  split
  · exact List.nodup_nil
  · exact h key

/-- Nobody is sent a message twice. -/
theorem DistinctSubscribers.nodup_audience (h : g.DistinctSubscribers) (sessionId : String)
    (exclude : Option String) : (g.audience sessionId exclude).Nodup := by
  have hsorted : (g.subscribers sessionId).Nodup :=
    (List.mergeSort_perm _ _).nodup_iff.mpr (h sessionId)
  have haudience : (g.audience sessionId exclude).Sublist (g.subscribers sessionId) := by
    rw [audience_eq]
    exact List.filter_sublist.trans List.filter_sublist
  exact haudience.nodup hsorted

/-! ### Numbers -/

/-- The messages in the log are numbered from zero, in order, and the next one gets the next
number. -/
def Numbered (g : Gateway) : Prop :=
  g.log.map (fun d => d.message.sequence) = List.range g.nextSequence

theorem Numbered.broadcast (h : g.Numbered) (sessionId : String) (notice : Notice)
    (exclude : Option String) (now : Instant) :
    (g.broadcast sessionId notice exclude now).2.Numbered := by
  change (g.log ++ [_]).map (fun d : Dispatch => d.message.sequence) =
    List.range (g.nextSequence + 1)
  rw [List.map_append, h, List.range_succ]
  rfl

end Gateway

end CoEdit

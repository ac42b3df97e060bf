import CoEdit.Proofs.Delivery.Sending

/-!
# Twin Mailboxes

Two gateways can differ in who is connected to them and in how the receivers fare, and still send
the same messages to the same subscribers. At such gateways some mailboxes may be twins: they hold
the same, and the same users are connected to them. They stay twins whatever is sent, and whatever
happens to the other connections and mailboxes.

## Main definitions

* `Gateway.SameSending`: two gateways have the same subscriptions and have sent the same messages.
* `Gateway.Twinned`: besides, some of their mailboxes are twins.
* `Line.isOwn`: lines that come with a mailbox of their own.
* `Gateway.nextMailbox`, `Gateway.NextIsFree`: the mailbox that such a line leads to.

## Main results

* `Twinned.broadcast`, `Twinned.setSubscriptions`: sending and subscribing keep the twins.
* `Twinned.left`, `Twinned.symm`: so does what one of the gateways does apart from them.
* `Twinned.openLine`: twins come about.
* `Twinned.connect`, `Twinned.disconnect`, `Twinned.drain`, `Twinned.hangUp`: they stay twins as
  long as they are treated alike.
-/

namespace CoEdit

open CoEdit.Time (Instant)

/-- Whether a line comes with a mailbox of its own. -/
def Line.isOwn : Line → Bool
  | .shared _ => false
  | _ => true

/-- Nobody has a value that is not among the values. -/
theorem Table.get?_ne_of_not_mem_values {α : Type} {t : Table α} {value : α} {name : String}
    (h : value ∉ t.values) : t.get? name ≠ some value := by
  intro hget
  exact h (List.mem_map_of_mem (mem_entries_iff.mpr hget))

namespace Gateway

/-- The number that the next mailbox gets. -/
def nextMailbox (g : Gateway) : Nat :=
  g.mailboxes.length

/-- Nobody is connected to the next mailbox before it is there. -/
def NextIsFree (g : Gateway) : Prop :=
  g.nextMailbox ∉ g.connections.values

instance (g : Gateway) : Decidable g.NextIsFree :=
  inferInstanceAs (Decidable (_ ∉ _))

/-! ### Sending the same -/

/-- Two gateways have the same subscriptions and have sent the same messages under the same numbers.
To whose connections, and with what success, makes no difference. -/
structure SameSending (g g' : Gateway) : Prop where
  tapCapacity : g'.tapCapacity = g.tapCapacity
  subscriptions : g'.subscriptions = g.subscriptions
  messages : g'.log.map Dispatch.message = g.log.map Dispatch.message
  nextSequence : g'.nextSequence = g.nextSequence
  messagesSent : g'.messagesSent = g.messagesSent

variable {g g' g₁ : Gateway} {userId : String} {line : Line} {k : Nat}

theorem SameSending.refl (g : Gateway) : SameSending g g := ⟨rfl, rfl, rfl, rfl, rfl⟩

theorem SameSending.symm (h : SameSending g g') : SameSending g' g :=
  ⟨h.tapCapacity.symm, h.subscriptions.symm, h.messages.symm, h.nextSequence.symm,
    h.messagesSent.symm⟩

theorem SameSending.trans (h : SameSending g g') (h₁ : SameSending g' g₁) : SameSending g g₁ :=
  ⟨h₁.tapCapacity.trans h.tapCapacity, h₁.subscriptions.trans h.subscriptions,
    h₁.messages.trans h.messages, h₁.nextSequence.trans h.nextSequence,
    h₁.messagesSent.trans h.messagesSent⟩

/-- A line with a mailbox of its own puts a mailbox at the end, the same at every gateway. -/
theorem exists_openLine (h : line.isOwn = true) :
    ∃ m : Mailbox, ∀ g : Gateway, g.openLine line = g.addMailbox m := by
  cases line with
  | unbounded => exact ⟨.fresh none, fun _ => rfl⟩
  | bounded capacity => exact ⟨.fresh (some capacity), fun _ => rfl⟩
  | closed => exact ⟨.shut, fun _ => rfl⟩
  | shared => cases h

/-- Opening a line leaves the connections alone. -/
theorem connections_openLine : (g.openLine line).2.connections = g.connections := by
  cases line <;> rfl

/-- Opening a line takes no mailbox away, -/
theorem nextMailbox_le_openLine : g.nextMailbox ≤ (g.openLine line).2.nextMailbox := by
  cases line with
  | shared => exact Nat.le_refl _
  | unbounded | bounded | closed => exact (List.prefix_append g.mailboxes _).length_le

/-- and leaves the mailboxes alone that are there. -/
theorem getElem?_openLine (h : k < g.mailboxes.length) :
    (g.openLine line).2.mailboxes[k]? = g.mailboxes[k]? := by
  cases line with
  | shared => rfl
  | unbounded | bounded | closed => exact List.getElem?_append_left h

/-- A line leads to its own mailbox, which is the next one, or to the one it shares. -/
theorem openLine_number (g : Gateway) (line : Line) :
    (g.openLine line).1 = g.mailboxes.length ∨ line = .shared (g.openLine line).1 := by
  cases line with
  | shared => exact .inr rfl
  | unbounded | bounded | closed => exact .inl rfl

/-- A user who is connected is connected to the mailbox behind the line. -/
theorem get?_connect (other : String) :
    (g.connect userId line).2.connections.get? other =
      if other = userId then some (g.openLine line).1 else g.connections.get? other := by
  rw [connect]
  exact (Table.get?_put _ _ _ _).trans (by rw [connections_openLine])

/-- A user who is disconnected is not connected, and nothing else changes. -/
theorem get?_disconnect (other : String) :
    (g.disconnect userId).2.connections.get? other =
      if other = userId then none else g.connections.get? other :=
  Table.get?_erase _ _ _

/-- Draining one mailbox leaves the others alone. -/
theorem getElem?_drain (other : Nat) :
    (g.drain k).2.mailboxes[other]? =
      if other = k then g.mailboxes[other]?.map fun m => m.drain.2 else g.mailboxes[other]? := by
  rw [drain]
  cases hm : g.mailboxes[k]? with
  | none =>
      dsimp only
      split
      · next hother => rw [hother, hm, Option.map_none]
      · rfl
  | some m =>
      obtain ⟨hlt, -⟩ := List.getElem?_eq_some_iff.mp hm
      dsimp only
      split
      · next hother => rw [hother, hm, List.getElem?_set_self hlt, Option.map_some]
      · next hother => exact List.getElem?_set_ne (Ne.symm hother)

/-- Draining one mailbox changes nothing but mailboxes. -/
theorem connections_drain : (g.drain k).2.connections = g.connections := by
  rw [drain]
  split <;> rfl

theorem drain_fst : (g.drain k).1 = (g.mailboxes[k]?.map Mailbox.held).getD [] := by
  rw [drain]
  cases g.mailboxes[k]? <;> rfl

/-- Closing one mailbox leaves the others alone. -/
theorem getElem?_hangUp (other : Nat) :
    (g.hangUp k).mailboxes[other]? =
      if other = k then g.mailboxes[other]?.map Mailbox.close else g.mailboxes[other]? := by
  rw [hangUp, List.getElem?_modify]
  by_cases hother : other = k
  · simp [hother]
  · simp [hother, Ne.symm hother]

/-! Connections and receivers have no part in what is sent. -/

theorem sameSending_openLine (g : Gateway) (line : Line) : SameSending g (g.openLine line).2 := by
  cases line <;> exact ⟨rfl, rfl, rfl, rfl, rfl⟩

theorem sameSending_connect (g : Gateway) (userId : String) (line : Line) :
    SameSending g (g.connect userId line).2 :=
  (sameSending_openLine g line).trans ⟨rfl, rfl, rfl, rfl, rfl⟩

theorem sameSending_disconnect (g : Gateway) (userId : String) :
    SameSending g (g.disconnect userId).2 := ⟨rfl, rfl, rfl, rfl, rfl⟩

theorem sameSending_drain (g : Gateway) (k : Nat) : SameSending g (g.drain k).2 := by
  rw [drain]
  split <;> exact ⟨rfl, rfl, rfl, rfl, rfl⟩

theorem sameSending_hangUp (g : Gateway) (k : Nat) : SameSending g (g.hangUp k) :=
  ⟨rfl, rfl, rfl, rfl, rfl⟩

/-! ### Twins -/

/-- Two gateways that send the same and have twin mailboxes. Of each pair the first number is that
of the mailbox at `g`, and the second one that of its twin at `g'`. Only watched users are connected
to twins. -/
structure Twinned (watched : String → Prop) (twins : List (Nat × Nat)) (g g' : Gateway) : Prop
    extends SameSending g g' where
  mailboxes : ∀ t ∈ twins, ∃ m, g.mailboxes[t.1]? = some m ∧ g'.mailboxes[t.2]? = some m
  distinct : ∀ t ∈ twins, ∀ u ∈ twins, t.1 = u.1 ↔ t.2 = u.2
  connections : ∀ t ∈ twins, ∀ userId,
    g.connections.get? userId = some t.1 ↔ g'.connections.get? userId = some t.2
  watched : ∀ t ∈ twins, ∀ userId, g.connections.get? userId = some t.1 → watched userId

namespace Twinned

variable {watched : String → Prop} {twins : List (Nat × Nat)} {t : Nat × Nat}

/-- Two gateways without connections have no twins yet. -/
theorem new (watched : String → Prop) (capacity : Nat) :
    Twinned watched [] (Gateway.new capacity) (Gateway.new capacity) where
  toSameSending := .refl _
  mailboxes := nofun
  distinct := nofun
  connections := nofun
  watched := nofun

/-- A mailbox is its own twin. -/
theorem self {k : Nat} (hk : k < g.nextMailbox) : Twinned (fun _ => True) [(k, k)] g g where
  toSameSending := .refl g
  mailboxes t ht := by
    rw [List.mem_singleton.mp ht]
    exact ⟨g.mailboxes[k], List.getElem?_eq_getElem hk, List.getElem?_eq_getElem hk⟩
  distinct t ht u hu := by
    rw [List.mem_singleton.mp ht, List.mem_singleton.mp hu]
  connections t ht userId := by
    rw [List.mem_singleton.mp ht]
  watched _ _ _ _ := trivial

theorem lt_length (h : Twinned watched twins g g') (ht : t ∈ twins) :
    t.1 < g.mailboxes.length ∧ t.2 < g'.mailboxes.length := by
  obtain ⟨m, hm, hm'⟩ := h.mailboxes t ht
  exact ⟨(List.getElem?_eq_some_iff.mp hm).1, (List.getElem?_eq_some_iff.mp hm').1⟩

/-- The same can be taken out of twins. -/
theorem drain_fst (h : Twinned watched twins g g') (ht : t ∈ twins) :
    (g'.drain t.2).1 = (g.drain t.1).1 := by
  obtain ⟨m, hm, hm'⟩ := h.mailboxes t ht
  rw [Gateway.drain_fst, Gateway.drain_fst, hm, hm']

/-! #### At one gateway -/

/-- What one gateway does apart from the twins leaves them twins. -/
theorem left (h : Twinned watched twins g g') (hsending : SameSending g g₁)
    (hmailboxes : ∀ t ∈ twins, g₁.mailboxes[t.1]? = g.mailboxes[t.1]?)
    (hconnections : ∀ t ∈ twins, ∀ userId,
      g₁.connections.get? userId = some t.1 ↔ g.connections.get? userId = some t.1) :
    Twinned watched twins g₁ g' where
  toSameSending := hsending.symm.trans h.toSameSending
  mailboxes t ht := by
    obtain ⟨m, hm, hm'⟩ := h.mailboxes t ht
    exact ⟨m, (hmailboxes t ht).trans hm, hm'⟩
  distinct := h.distinct
  connections t ht userId := (hconnections t ht userId).trans (h.connections t ht userId)
  watched t ht userId hconnected :=
    h.watched t ht userId ((hconnections t ht userId).mp hconnected)

/-- Twins are twins of each other. -/
theorem symm (h : Twinned watched twins g g') :
    Twinned watched (twins.map Prod.swap) g' g where
  toSameSending := h.toSameSending.symm
  mailboxes t ht := by
    obtain ⟨u, hu, rfl⟩ := List.mem_map.mp ht
    obtain ⟨m, hm, hm'⟩ := h.mailboxes u hu
    exact ⟨m, hm', hm⟩
  distinct t ht u hu := by
    obtain ⟨t₀, ht₀, rfl⟩ := List.mem_map.mp ht
    obtain ⟨u₀, hu₀, rfl⟩ := List.mem_map.mp hu
    exact (h.distinct t₀ ht₀ u₀ hu₀).symm
  connections t ht userId := by
    obtain ⟨u, hu, rfl⟩ := List.mem_map.mp ht
    exact (h.connections u hu userId).symm
  watched t ht userId hconnected := by
    obtain ⟨u, hu, rfl⟩ := List.mem_map.mp ht
    exact h.watched u hu userId ((h.connections u hu userId).mpr hconnected)

/-- A user who is not watched may be connected to any mailbox that is no twin, -/
theorem left_connect (h : Twinned watched twins g g') (huser : ¬watched userId)
    (hline : ∀ t ∈ twins, line ≠ .shared t.1) :
    Twinned watched twins (g.connect userId line).2 g' := by
  refine h.left (sameSending_connect g userId line) (fun t ht => ?_) fun t ht other => ?_
  · exact getElem?_openLine (h.lt_length ht).1
  · rw [get?_connect]
    split
    · next hother =>
      rw [hother]
      refine iff_of_false (fun heq => ?_) fun heq => huser (h.watched t ht userId heq)
      have hnumber := Option.some.inj heq
      rcases g.openLine_number line with hnext | hshared
      · exact absurd (hnumber ▸ hnext) (Nat.ne_of_lt (h.lt_length ht).1)
      · exact hline t ht (hnumber ▸ hshared)
    · rfl

/-- and be disconnected. -/
theorem left_disconnect (h : Twinned watched twins g g') (huser : ¬watched userId) :
    Twinned watched twins (g.disconnect userId).2 g' := by
  refine h.left (sameSending_disconnect g userId) (fun _ _ => rfl) fun t ht other => ?_
  rw [get?_disconnect]
  split
  · next hother =>
    rw [hother]
    exact iff_of_false nofun fun heq => huser (h.watched t ht userId heq)
  · rfl

theorem left_openLine (h : Twinned watched twins g g') (line : Line) :
    Twinned watched twins (g.openLine line).2 g' :=
  h.left (sameSending_openLine g line) (fun _ ht => getElem?_openLine (h.lt_length ht).1)
    fun _ _ _ => by rw [connections_openLine]

/-- Mailboxes that are no twins may be emptied -/
theorem left_drain (h : Twinned watched twins g g') (hk : ∀ t ∈ twins, t.1 ≠ k) :
    Twinned watched twins (g.drain k).2 g' :=
  h.left (sameSending_drain g k) (fun t ht => by rw [getElem?_drain, if_neg (hk t ht)])
    fun _ _ _ => by rw [connections_drain]

/-- and closed. -/
theorem left_hangUp (h : Twinned watched twins g g') (hk : ∀ t ∈ twins, t.1 ≠ k) :
    Twinned watched twins (g.hangUp k) g' :=
  h.left (sameSending_hangUp g k)
    (fun t ht => by rw [getElem?_hangUp, if_neg (hk t ht)]) fun _ _ _ => Iff.rfl

/-! #### At both gateways -/

/-- The subscriptions have no part in this as long as they are the same. -/
theorem setSubscriptions (h : Twinned watched twins g g') (subscriptions : Table (List String)) :
    Twinned watched twins { g with subscriptions } { g' with subscriptions } where
  toSameSending := ⟨h.tapCapacity, rfl, h.messages, h.nextSequence, h.messagesSent⟩
  mailboxes := h.mailboxes
  distinct := h.distinct
  connections := h.connections
  watched := h.watched

theorem subscribe (h : Twinned watched twins g g') (sessionId userId : String) :
    Twinned watched twins (g.subscribe sessionId userId) (g'.subscribe sessionId userId) := by
  rw [Gateway.subscribe, Gateway.subscribe, subscriptionsOf, subscriptionsOf, h.subscriptions]
  by_cases hthere : userId ∈ (g.subscriptions.get? sessionId).getD []
  · rw [if_pos hthere, if_pos hthere]
    exact h
  · rw [if_neg hthere, if_neg hthere]
    exact h.setSubscriptions _

theorem unsubscribe (h : Twinned watched twins g g') (sessionId userId : String) :
    Twinned watched twins (g.unsubscribe sessionId userId) (g'.unsubscribe sessionId userId) := by
  rw [Gateway.unsubscribe, Gateway.unsubscribe, h.subscriptions]
  cases g.subscriptions.get? sessionId with
  | none => exact h
  | some users =>
      dsimp only
      by_cases hlast : (users.filter (· ≠ userId)).isEmpty = true
      · rw [if_pos hlast, if_pos hlast]
        exact h.setSubscriptions _
      · rw [if_neg hlast, if_neg hlast]
        exact h.setSubscriptions _

theorem dropSession (h : Twinned watched twins g g') (sessionId : String) :
    Twinned watched twins (g.dropSession sessionId) (g'.dropSession sessionId) := by
  rw [Gateway.dropSession, Gateway.dropSession, h.subscriptions]
  exact h.setSubscriptions _


/-- **Whatever is sent is offered to both twins.** -/
theorem broadcast (h : Twinned watched twins g g') (sessionId : String) (notice : Notice)
    (exclude : Option String) (now : Instant) :
    Twinned watched twins (g.broadcast sessionId notice exclude now).2
      (g'.broadcast sessionId notice exclude now).2 where
  tapCapacity := h.tapCapacity
  subscriptions := h.subscriptions
  messages := by
    have hsent := g.sends_broadcast sessionId notice exclude now
    have hsent' := g'.sends_broadcast sessionId notice exclude now
    rw [hsent.log, hsent'.log, List.map_append, List.map_append, h.messages, h.nextSequence]
    rfl
  nextSequence := congrArg (· + 1) h.nextSequence
  messagesSent := congrArg (· + 1) h.messagesSent
  mailboxes t ht := by
    obtain ⟨m, hm, hm'⟩ := h.mailboxes t ht
    have hsent := (g.sends_broadcast sessionId notice exclude now).mailboxes t.1
    have hsent' := (g'.sends_broadcast sessionId notice exclude now).mailboxes t.2
    rw [hm, Option.map_some, List.flatMap_singleton, Dispatch.deliveries, filter_audience]
      at hsent
    rw [hm', Option.map_some, List.flatMap_singleton, Dispatch.deliveries, filter_audience,
      subscribers, subscriptionsOf, h.subscriptions, h.nextSequence] at hsent'
    refine ⟨_, hsent, ?_⟩
    rw [hsent']
    simp only [h.connections t ht, subscribers, subscriptionsOf]
  distinct := h.distinct
  connections := h.connections
  watched := h.watched

/-- Mailboxes that are added to both gateways are twins, if nobody is connected to them before they
are there. -/
theorem addMailbox (h : Twinned watched twins g g') (m : Mailbox)
    (hnew : g.NextIsFree)
    (hnew' : g'.NextIsFree) :
    Twinned watched (twins ++ [(g.nextMailbox, g'.nextMailbox)]) (g.addMailbox m).2
      (g'.addMailbox m).2 where
  toSameSending := ⟨h.tapCapacity, h.subscriptions, h.messages, h.nextSequence, h.messagesSent⟩
  mailboxes t ht := by
    rcases List.mem_append.mp ht with hold | hlast
    · obtain ⟨hlt, hlt'⟩ := h.lt_length hold
      obtain ⟨m₀, hm, hm'⟩ := h.mailboxes t hold
      exact ⟨m₀, (List.getElem?_append_left hlt).trans hm,
        (List.getElem?_append_left hlt').trans hm'⟩
    · rw [List.mem_singleton.mp hlast]
      exact ⟨m, List.getElem?_concat_length, List.getElem?_concat_length⟩
  distinct t ht u hu := by
    rcases List.mem_append.mp ht with hold | hlast
    · rcases List.mem_append.mp hu with hold' | hlast'
      · exact h.distinct t hold u hold'
      · rw [List.mem_singleton.mp hlast']
        obtain ⟨hlt, hlt'⟩ := h.lt_length hold
        exact iff_of_false (Nat.ne_of_lt hlt) (Nat.ne_of_lt hlt')
    · rcases List.mem_append.mp hu with hold' | hlast'
      · rw [List.mem_singleton.mp hlast]
        obtain ⟨hlt, hlt'⟩ := h.lt_length hold'
        exact iff_of_false (Nat.ne_of_gt hlt) (Nat.ne_of_gt hlt')
      · rw [List.mem_singleton.mp hlast, List.mem_singleton.mp hlast']
        exact iff_of_true rfl rfl
  connections t ht userId := by
    rcases List.mem_append.mp ht with hold | hlast
    · exact h.connections t hold userId
    · rw [List.mem_singleton.mp hlast]
      exact iff_of_false (Table.get?_ne_of_not_mem_values hnew)
        (Table.get?_ne_of_not_mem_values hnew')
  watched t ht userId hconnected := by
    rcases List.mem_append.mp ht with hold | hlast
    · exact h.watched t hold userId hconnected
    · rw [List.mem_singleton.mp hlast] at hconnected
      exact absurd hconnected (Table.get?_ne_of_not_mem_values hnew)

/-- A line that is opened at both gateways leads to twins. -/
theorem openLine (h : Twinned watched twins g g') (hline : line.isOwn = true)
    (hnew : g.NextIsFree)
    (hnew' : g'.NextIsFree) :
    Twinned watched (twins ++ [(g.nextMailbox, g'.nextMailbox)]) (g.openLine line).2
      (g'.openLine line).2 := by
  obtain ⟨m, hopen⟩ := exists_openLine hline
  rw [hopen, hopen]
  exact h.addMailbox m hnew hnew'

/-- A watched user is connected to twins. -/
theorem setConnections (h : Twinned watched twins g g') (ht : t ∈ twins) (huser : watched userId) :
    Twinned watched twins { g with connections := g.connections.put userId t.1 }
      { g' with connections := g'.connections.put userId t.2 } where
  toSameSending := ⟨h.tapCapacity, h.subscriptions, h.messages, h.nextSequence, h.messagesSent⟩
  mailboxes := h.mailboxes
  distinct := h.distinct
  connections u hu other := by
    rw [Table.get?_put, Table.get?_put]
    split
    · rw [Option.some_inj, Option.some_inj]
      exact h.distinct t ht u hu
    · exact h.connections u hu other
  watched u hu other hconnected := by
    rw [Table.get?_put] at hconnected
    split at hconnected
    · next hother =>
      rw [hother]
      exact huser
    · exact h.watched u hu other hconnected

/-- Over a line of their own, watched users are connected to new twins, -/
theorem connect (h : Twinned watched twins g g') (huser : watched userId)
    (hline : line.isOwn = true) (hnew : g.NextIsFree)
    (hnew' : g'.NextIsFree) :
    Twinned watched (twins ++ [(g.nextMailbox, g'.nextMailbox)])
      (g.connect userId line).2 (g'.connect userId line).2 := by
  have hopened := h.openLine hline hnew hnew'
  obtain ⟨m, hopen⟩ := exists_openLine hline
  rw [Gateway.connect, Gateway.connect]
  rw [hopen, hopen] at hopened ⊢
  exact hopened.setConnections (List.mem_append_right _ (List.mem_singleton_self _)) huser

/-- and otherwise to twins that are there. -/
theorem connect_shared (h : Twinned watched twins g g') (huser : watched userId) (ht : t ∈ twins) :
    Twinned watched twins (g.connect userId (.shared t.1)).2 (g'.connect userId (.shared t.2)).2 :=
  h.setConnections ht huser

theorem disconnect (h : Twinned watched twins g g') (userId : String) :
    Twinned watched twins (g.disconnect userId).2 (g'.disconnect userId).2 where
  toSameSending := (sameSending_disconnect g userId).symm.trans
    (h.toSameSending.trans (sameSending_disconnect g' userId))
  mailboxes := h.mailboxes
  distinct := h.distinct
  connections u hu other := by
    rw [get?_disconnect, get?_disconnect]
    split
    · exact iff_of_false nofun nofun
    · exact h.connections u hu other
  watched u hu other hconnected := by
    rw [get?_disconnect] at hconnected
    split at hconnected
    · cases hconnected
    · exact h.watched u hu other hconnected

/-- Twins that are changed alike stay twins. -/
theorem setMailboxes (h : Twinned watched twins g g') {g₁ g₁' : Gateway} {f : Mailbox → Mailbox}
    (ht : t ∈ twins) (hsending : SameSending g g₁) (hsending' : SameSending g' g₁')
    (hconnections : g₁.connections = g.connections)
    (hconnections' : g₁'.connections = g'.connections)
    (hmailboxes : ∀ k, g₁.mailboxes[k]? =
      if k = t.1 then g.mailboxes[k]?.map f else g.mailboxes[k]?)
    (hmailboxes' : ∀ k, g₁'.mailboxes[k]? =
      if k = t.2 then g'.mailboxes[k]?.map f else g'.mailboxes[k]?) :
    Twinned watched twins g₁ g₁' where
  toSameSending := (hsending.symm.trans h.toSameSending).trans hsending'
  mailboxes u hu := by
    obtain ⟨m, hm, hm'⟩ := h.mailboxes u hu
    have hsame := h.distinct u hu t ht
    rw [hmailboxes, hmailboxes', hm, hm']
    by_cases heq : u.1 = t.1
    · rw [if_pos heq, if_pos (hsame.mp heq)]
      exact ⟨f m, rfl, rfl⟩
    · rw [if_neg heq, if_neg (mt hsame.mpr heq)]
      exact ⟨m, rfl, rfl⟩
  distinct := h.distinct
  connections := by
    rw [hconnections, hconnections']
    exact h.connections
  watched := by
    rw [hconnections]
    exact h.watched

theorem drain (h : Twinned watched twins g g') (ht : t ∈ twins) :
    Twinned watched twins (g.drain t.1).2 (g'.drain t.2).2 :=
  h.setMailboxes ht (sameSending_drain g t.1) (sameSending_drain g' t.2) connections_drain
    connections_drain getElem?_drain getElem?_drain

theorem hangUp (h : Twinned watched twins g g') (ht : t ∈ twins) :
    Twinned watched twins (g.hangUp t.1) (g'.hangUp t.2) :=
  h.setMailboxes ht (sameSending_hangUp g t.1) (sameSending_hangUp g' t.2) rfl rfl getElem?_hangUp
    getElem?_hangUp

end Twinned

end Gateway

end CoEdit

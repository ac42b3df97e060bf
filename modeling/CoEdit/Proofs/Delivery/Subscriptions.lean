import CoEdit.Delivery.Gateway
import Mathlib.Tactic.Common

/-!
# Subscriptions

What subscribing, unsubscribing and dropping a session do to the subscribers of every session.

## Main results

* `subscriptionsOf_subscribe`, `subscriptionsOf_unsubscribe`: the lists of subscribers afterwards.
* `mem_subscribe_iff`, `mem_unsubscribe_iff`, `mem_dropSession_iff`: who is on them.
* `NoneEmpty.subscribe`, `NoneEmpty.unsubscribe`, `NoneEmpty.dropSession`: no session is kept with
  an empty list of subscribers.
-/

namespace CoEdit.Gateway

variable {g : Gateway} {sessionId key userId other : String}

/-- Every session that the gateway knows has a subscriber. -/
def NoneEmpty (g : Gateway) : Prop :=
  ∀ key users, g.subscriptions.get? key = some users → users ≠ []

/-- The subscribers that callers see are those that are kept, in another order. -/
theorem mem_subscribers_iff : userId ∈ g.subscribers key ↔ userId ∈ g.subscriptionsOf key := by
  rw [subscribers, List.mem_mergeSort]

/-- If no list is empty, a session without subscribers is not known. -/
theorem NoneEmpty.get?_eq_none (h : g.NoneEmpty)
    (hnone : ∀ userId, userId ∉ g.subscriptionsOf key) :
    g.subscriptions.get? key = none := by
  cases hget : g.subscriptions.get? key with
  | none => rfl
  | some users =>
      have hof : g.subscriptionsOf key = users := by rw [subscriptionsOf, hget, Option.getD_some]
      obtain ⟨userId, hmem⟩ := List.exists_mem_of_ne_nil users (h key users hget)
      exact absurd (hof ▸ hmem) (hnone userId)

/-! ### Subscribing -/

/-- A new subscriber comes last. The lists of the other sessions stay as they are. -/
theorem subscriptionsOf_subscribe :
    (g.subscribe sessionId userId).subscriptionsOf key =
      if key = sessionId ∧ userId ∉ g.subscriptionsOf key then g.subscriptionsOf key ++ [userId]
      else g.subscriptionsOf key := by
  by_cases hkey : key = sessionId
  · subst hkey
    by_cases hmem : userId ∈ g.subscriptionsOf key
    · rw [subscribe, if_pos hmem, if_neg (fun h => h.2 hmem)]
    · rw [subscribe, if_neg hmem, if_pos ⟨rfl, hmem⟩, subscriptionsOf, Table.get?_put_self]
      rfl
  · rw [if_neg (fun h => hkey h.1), subscribe]
    split
    · rfl
    · rw [subscriptionsOf, Table.get?_put_of_ne _ _ hkey, subscriptionsOf]

theorem mem_subscribe_iff :
    other ∈ (g.subscribe sessionId userId).subscriptionsOf key ↔
      other ∈ g.subscriptionsOf key ∨ (other = userId ∧ key = sessionId) := by
  rw [subscriptionsOf_subscribe]
  split
  · next hnew => rw [List.mem_append, List.mem_singleton, and_iff_left hnew.1]
  · next hold =>
    refine ⟨Or.inl, ?_⟩
    rintro (hmem | ⟨rfl, hkey⟩)
    · exact hmem
    · exact not_not.mp fun hnew => hold ⟨hkey, hnew⟩

theorem NoneEmpty.subscribe (h : g.NoneEmpty) : (g.subscribe sessionId userId).NoneEmpty := by
  simp only [Gateway.subscribe]
  split
  · exact h
  · intro key users hget
    rw [Table.get?_put] at hget
    split at hget
    · obtain rfl := Option.some.inj hget
      simp
    · exact h key users hget

/-! ### Unsubscribing -/

/-- Who unsubscribes is taken out of the list. The lists of the other sessions stay as they are. -/
theorem subscriptionsOf_unsubscribe :
    (g.unsubscribe sessionId userId).subscriptionsOf key =
      if key = sessionId then (g.subscriptionsOf key).filter (· ≠ userId)
      else g.subscriptionsOf key := by
  rw [unsubscribe]
  by_cases hkey : key = sessionId
  · subst hkey
    rw [if_pos rfl]
    cases hget : g.subscriptions.get? key with
    | none => simp [subscriptionsOf, hget]
    | some users =>
        have hof : g.subscriptionsOf key = users := by rw [subscriptionsOf, hget, Option.getD_some]
        rw [hof]
        dsimp only
        split
        · next hempty =>
          rw [List.isEmpty_iff.mp hempty, subscriptionsOf, Table.get?_erase, if_pos rfl,
            Option.getD_none]
        · rw [subscriptionsOf, Table.get?_put_self, Option.getD_some]
  · rw [if_neg hkey]
    split
    · rfl
    · dsimp only
      split
      · rw [subscriptionsOf, Table.get?_erase, if_neg hkey, subscriptionsOf]
      · rw [subscriptionsOf, Table.get?_put_of_ne _ _ hkey, subscriptionsOf]

theorem mem_unsubscribe_iff :
    other ∈ (g.unsubscribe sessionId userId).subscriptionsOf key ↔
      other ∈ g.subscriptionsOf key ∧ ¬(other = userId ∧ key = sessionId) := by
  rw [subscriptionsOf_unsubscribe]
  by_cases hkey : key = sessionId
  · simp [hkey]
  · simp [hkey]

theorem NoneEmpty.unsubscribe (h : g.NoneEmpty) :
    (g.unsubscribe sessionId userId).NoneEmpty := by
  rw [Gateway.unsubscribe]
  split
  · exact h
  · next users _ =>
    simp only
    split
    · intro key users hget
      rw [Table.get?_erase] at hget
      split at hget
      · cases hget
      · exact h key users hget
    · next hne =>
      intro key users hget
      rw [Table.get?_put] at hget
      split at hget
      · obtain rfl := Option.some.inj hget
        simpa using hne
      · exact h key users hget

/-! ### Dropping a session -/

theorem mem_dropSession_iff :
    other ∈ (g.dropSession sessionId).subscriptionsOf key ↔
      other ∈ g.subscriptionsOf key ∧ key ≠ sessionId := by
  simp only [dropSession, subscriptionsOf, Table.get?_erase]
  by_cases hkey : key = sessionId
  · simp [hkey]
  · simp [hkey]

theorem NoneEmpty.dropSession (h : g.NoneEmpty) : (g.dropSession sessionId).NoneEmpty := by
  intro key users hget
  simp only [Gateway.dropSession, Table.get?_erase] at hget
  split at hget
  · cases hget
  · exact h key users hget

/-! ### Everything else -/

/-- Subscribing changes the subscriptions alone. -/
theorem subscribe_eq : g.subscribe sessionId userId =
    { g with subscriptions := (g.subscribe sessionId userId).subscriptions } := by
  simp only [Gateway.subscribe]
  split <;> rfl

/-- Unsubscribing changes the subscriptions alone. -/
theorem unsubscribe_eq : g.unsubscribe sessionId userId =
    { g with subscriptions := (g.unsubscribe sessionId userId).subscriptions } := by
  rw [Gateway.unsubscribe]
  split
  · rfl
  · simp only
    split <;> rfl

theorem log_subscribe : (g.subscribe sessionId userId).log = g.log := by
  rw [subscribe_eq]

theorem connections_subscribe : (g.subscribe sessionId userId).connections = g.connections := by
  rw [subscribe_eq]

theorem connections_unsubscribe :
    (g.unsubscribe sessionId userId).connections = g.connections := by
  rw [unsubscribe_eq]

theorem log_unsubscribe : (g.unsubscribe sessionId userId).log = g.log := by
  rw [unsubscribe_eq]

end CoEdit.Gateway

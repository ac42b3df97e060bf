import CoEdit.Table
import Mathlib.Data.List.Nodup

/-!
# Tables with Other Values or in Another Order

The values of a table may be exchanged one by one, under the same names. What is done to the table
then can be done before or after the exchange. And its entries may be put in another order, which is
not seen by looking them up.

## Main definitions

* `Table.map`: the same names with other values.
* `Table.ranked`: the same entries in another order.

## Main results

* `Table.get?_map`, `Table.map_put`, `Table.map_erase`: the exchange and the operations.
* `Table.map_filter_values_map`: what is shown of the values that pass a test.
* `Table.get?_ranked`, `Table.map_ranked`: the order, look-ups, and the exchange.
* `Table.exists_ranked`: there is no order that a table cannot be put in.
-/

namespace CoEdit

namespace Table

variable {α β : Type} {f : α → β}

/-- The same names, in the same order, with other values. -/
def map (f : α → β) (t : Table α) : Table β where
  entries := t.entries.map fun e => (e.1, f e.2)
  nodup := by
    rw [List.map_map]
    exact t.nodup

theorem ext {t t' : Table α} (h : t.entries = t'.entries) : t = t' := by
  obtain ⟨entries, _⟩ := t
  obtain rfl : entries = t'.entries := h
  rfl

theorem values_map (t : Table α) : (t.map f).values = t.values.map f := by
  simp [values, map]

/-- The values that pass a test are shown alike, if neither the test nor what is shown takes notice
of the exchange. -/
theorem map_filter_values_map {γ : Type} {t : Table α} {f : α → α} {test : α → Bool} {g : α → γ}
    (htest : ∀ x, test (f x) = test x) (hg : ∀ x, g (f x) = g x) :
    ((t.map f).values.filter test).map g = (t.values.filter test).map g := by
  rw [values_map, List.filter_map, List.map_map]
  have hsame : t.values.filter (test ∘ f) = t.values.filter test :=
    List.filter_congr fun x _ => htest x
  rw [hsame]
  exact List.map_congr_left fun x _ => hg x

theorem get?_map (t : Table α) (name : String) :
    (t.map f).get? name = (t.get? name).map f := by
  obtain ⟨l, hl⟩ := t
  simp only [map, get?]
  clear hl
  induction l with
  | nil => rfl
  | cons e rest ih =>
      rw [List.map_cons, lookup_cons_eq, lookup_cons_eq, ih]
      split <;> rfl

theorem map_put (t : Table α) (name : String) (value : α) :
    (t.put name value).map f = (t.map f).put name (f value) := by
  obtain ⟨l, hl⟩ := t
  refine ext ?_
  change (putEntry name value l).map _ = putEntry name (f value) (l.map _)
  clear hl
  induction l with
  | nil => rfl
  | cons e rest ih =>
      obtain ⟨k, v⟩ := e
      by_cases hk : k = name
      · simp [putEntry, hk]
      · simp [putEntry, hk, ih]

theorem map_erase (t : Table α) (name : String) : (t.erase name).map f = (t.map f).erase name := by
  refine ext ?_
  change (t.entries.filter _).map _ = (t.entries.map _).filter _
  rw [List.filter_map]
  rfl

theorem map_map {γ : Type} (g : β → γ) (t : Table α) : (t.map f).map g = t.map fun x => g (f x) :=
  ext (List.map_map)

/-! ### Other orders -/

/-- Look-ups do not depend on the order of the entries. -/
theorem get?_eq_of_perm {t u : Table α} (h : t.entries.Perm u.entries) (key : String) :
    t.get? key = u.get? key :=
  Option.ext fun value => by rw [← mem_entries_iff, ← mem_entries_iff, h.mem_iff]

/-- The same entries in the order of ranks that are given to the names. -/
def ranked (rank : String → Nat) (t : Table α) : Table α where
  entries := t.entries.mergeSort fun a b => rank a.1 ≤ rank b.1
  nodup := ((List.mergeSort_perm _ _).map Prod.fst).nodup_iff.mpr t.nodup

theorem perm_ranked (rank : String → Nat) (t : Table α) :
    (t.ranked rank).entries.Perm t.entries :=
  List.mergeSort_perm _ _

theorem get?_ranked (rank : String → Nat) (t : Table α) (name : String) :
    (t.ranked rank).get? name = t.get? name :=
  get?_eq_of_perm (t.perm_ranked rank) name

theorem map_ranked (rank : String → Nat) (t : Table α) :
    (t.ranked rank).map f = (t.map f).ranked rank :=
  ext (List.map_mergeSort fun _ _ _ _ => rfl)

theorem pairwise_ranked (rank : String → Nat) (t : Table α) :
    (t.ranked rank).entries.Pairwise fun a b => rank a.1 ≤ rank b.1 := by
  have hsorted : (t.ranked rank).entries.Pairwise fun a b =>
      decide (rank a.1 ≤ rank b.1) = true := by
    refine List.pairwise_mergeSort (fun a b c hab hbc => ?_) (fun a b => ?_) t.entries
    · exact decide_eq_true (Nat.le_trans (of_decide_eq_true hab) (of_decide_eq_true hbc))
    · simpa using Nat.le_total (rank a.1) (rank b.1)
  exact hsorted.imp of_decide_eq_true

/-- The entries of a table are in the order of the places of their names. -/
theorem pairwise_idxOf (t : Table α) :
    t.entries.Pairwise fun a b => t.keys.idxOf a.1 ≤ t.keys.idxOf b.1 := by
  have hkeys : t.keys.Pairwise fun a b => t.keys.idxOf a ≤ t.keys.idxOf b := by
    refine List.pairwise_iff_getElem.mpr fun i j hi hj hij => ?_
    have hnodup : t.keys.Nodup := t.nodup
    rw [hnodup.idxOf_getElem i hi, hnodup.idxOf_getElem j hj]
    exact Nat.le_of_lt hij
  exact (List.pairwise_map (f := Prod.fst)).mp hkeys

/-- **Every order is that of some ranks**: those of the places that the names are to have. -/
theorem exists_ranked {t u : Table α} (h : u.entries.Perm t.entries) :
    ∃ rank, t.ranked rank = u := by
  have hperm := (t.perm_ranked u.keys.idxOf).trans h.symm
  refine ⟨u.keys.idxOf, ext (hperm.eq_of_pairwise ?_ (t.pairwise_ranked _) u.pairwise_idxOf)⟩
  -- Two entries with the same place have the same name, and so the same value.
  rintro ⟨name, value⟩ ⟨other, value'⟩ hvalue hvalue' hle hge
  replace hvalue := hperm.subset hvalue
  have hname : name ∈ u.keys := List.mem_map_of_mem hvalue
  obtain rfl : name = other := (List.idxOf_inj hname).mp (Nat.le_antisymm hle hge)
  obtain rfl := Option.some.inj
    ((mem_entries_iff.mp hvalue).symm.trans (mem_entries_iff.mp hvalue'))
  rfl

end Table

end CoEdit

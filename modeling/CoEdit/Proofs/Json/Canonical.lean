import CoEdit.Json.Reader
import CoEdit.Proofs.Decode.Fields

/-!
# What Is Read Is Canonical

The reader puts the entries of every object that it keeps in ascending order, each key once. So a
value that was read is its own canonical form, and whoever passes it on in canonical form passes it
on as it is.

## Main definitions

* `Json.Canonical`: values that are their own canonical form.
* `Json.Ascending`: entries with ascending keys.

## Main results

* `sortEntries_of_ascending`, `ascending_sortEntries`: sorting puts in order, and keeps what is.
* `canonical_of_parseTop`: all that is read is canonical.
-/

namespace CoEdit.Json

variable {j : Json} {fields entries : List (String × Json)}

/-- Values that are their own canonical form. -/
def Canonical (j : Json) : Prop :=
  j.sorted = j

/-- Entries with ascending keys, each of them once. -/
def Ascending (fields : List (String × Json)) : Prop :=
  fields.Pairwise (·.1 < ·.1)

/-! ### Sorting entries -/

/-- Sorted entries are the new one and some of the old ones. -/
theorem mem_putSorted {key : String} {value : Json} {entry : String × Json}
    (h : entry ∈ putSorted key value fields) : entry = (key, value) ∨ entry ∈ fields := by
  induction fields with
  | nil => exact .inl (List.mem_singleton.mp h)
  | cons first fields ih =>
      rw [putSorted] at h
      split at h
      · exact List.mem_cons.mp h
      · split at h
        · rcases List.mem_cons.mp h with h | h
          · exact .inl h
          · exact .inr (List.mem_cons_of_mem _ h)
        · rcases List.mem_cons.mp h with h | h
          · exact .inr (h ▸ List.mem_cons_self)
          · exact (ih h).imp_right (List.mem_cons_of_mem _)

theorem ascending_putSorted {key : String} {value : Json} (h : Ascending fields) :
    Ascending (putSorted key value fields) := by
  induction fields with
  | nil => exact List.pairwise_singleton _ _
  | cons first fields ih =>
      obtain ⟨hfirst, hrest⟩ := List.pairwise_cons.mp h
      rw [putSorted]
      split
      · next hlt =>
        refine List.pairwise_cons.mpr ⟨fun entry hentry => ?_, h⟩
        rcases List.mem_cons.mp hentry with rfl | hentry
        · exact hlt
        · exact String.lt_trans hlt (hfirst entry hentry)
      · next hnot =>
        split
        · next heq =>
          subst heq
          exact List.pairwise_cons.mpr ⟨hfirst, hrest⟩
        · next hne =>
          have hlt : first.1 < key := Std.lt_of_le_of_ne (String.not_lt.mp hnot) (Ne.symm hne)
          refine List.pairwise_cons.mpr ⟨fun entry hentry => ?_, ih hrest⟩
          rcases mem_putSorted hentry with rfl | hentry
          · exact hlt
          · exact hfirst entry hentry

/-- An entry whose key is the largest goes to the end. -/
theorem putSorted_of_lt {key : String} {value : Json} (h : ∀ entry ∈ fields, entry.1 < key) :
    putSorted key value fields = fields ++ [(key, value)] := by
  induction fields with
  | nil => rfl
  | cons first fields ih =>
      have hlt : first.1 < key := h first List.mem_cons_self
      have hne : key ≠ first.1 := fun heq => String.lt_irrefl key (heq ▸ hlt)
      rw [putSorted, if_neg (String.lt_asymm hlt), if_neg hne,
        ih fun entry hentry => h entry (List.mem_cons_of_mem _ hentry), List.cons_append]

theorem sortEntries_concat (entries : List (String × Json)) (entry : String × Json) :
    sortEntries (entries ++ [entry]) = putSorted entry.1 entry.2 (sortEntries entries) := by
  rw [sortEntries, List.foldl_append]
  rfl

theorem ascending_sortEntries (entries : List (String × Json)) :
    Ascending (sortEntries entries) := by
  induction entries using List.reverseRecOn with
  | nil => exact List.Pairwise.nil
  | append_singleton entries entry ih =>
      rw [sortEntries_concat]
      exact ascending_putSorted ih

theorem mem_of_mem_sortEntries {entry : String × Json} (h : entry ∈ sortEntries entries) :
    entry ∈ entries := by
  induction entries using List.reverseRecOn with
  | nil => exact h
  | append_singleton entries last ih =>
      rw [sortEntries_concat] at h
      rcases mem_putSorted h with rfl | h
      · exact List.mem_append_right _ (List.mem_singleton_self _)
      · exact List.mem_append_left _ (ih h)

/-- Entries in ascending order stay as they are. -/
theorem sortEntries_of_ascending (h : Ascending fields) : sortEntries fields = fields := by
  induction fields using List.reverseRecOn with
  | nil => rfl
  | append_singleton fields last ih =>
      obtain ⟨hfields, -, hlast⟩ := List.pairwise_append.mp h
      rw [sortEntries_concat, ih hfields, putSorted_of_lt fun entry hentry =>
        hlast entry hentry last (List.mem_singleton_self _)]

/-! ### Canonical values -/

theorem sortedItems_of_canonical {items : List Json} (h : ∀ item ∈ items, Canonical item) :
    sortedItems items = items := by
  induction items with
  | nil => rfl
  | cons item items ih =>
      rw [sortedItems, h item List.mem_cons_self,
        ih fun other hother => h other (List.mem_cons_of_mem _ hother)]

theorem sortedFields_of_canonical (h : ∀ entry ∈ fields, Canonical entry.2) :
    sortedFields fields = fields := by
  induction fields with
  | nil => rfl
  | cons entry fields ih =>
      rw [sortedFields, h entry List.mem_cons_self,
        ih fun other hother => h other (List.mem_cons_of_mem _ hother)]

theorem canonical_array {items : List Json} (h : ∀ item ∈ items, Canonical item) :
    Canonical (.array items) := by
  rw [Canonical, sorted, sortedItems_of_canonical h]

/-- An object with canonical values is canonical once its entries are sorted. -/
theorem canonical_ofEntries (h : ∀ entry ∈ entries, Canonical entry.2) :
    Canonical (ofEntries entries) := by
  rw [Canonical, ofEntries, sorted,
    sortedFields_of_canonical fun entry hentry => h entry (mem_of_mem_sortEntries hentry),
    sortEntries_of_ascending (ascending_sortEntries entries)]

/-- The items of a canonical array are canonical. -/
theorem Canonical.of_getElem? {items : List Json} {i : Nat} (h : Canonical (.array items))
    (hitem : items[i]? = some j) : Canonical j := by
  have hsorted : sortedItems items = items := by
    rw [Canonical, sorted] at h
    exact Json.array.inj h
  clear h
  induction items generalizing i with
  | nil => cases hitem
  | cons item items ih =>
      obtain ⟨hhead, htail⟩ := List.cons.inj hsorted
      cases i with
      | zero => exact Option.some.inj hitem ▸ hhead
      | succ i => exact ih hitem htail

theorem Ascending.nodup (h : Ascending fields) : (fields.map Prod.fst).Nodup := by
  refine List.pairwise_map.mpr (h.imp fun hlt heq => ?_)
  rw [heq] at hlt
  exact String.lt_irrefl _ hlt

/-- The values in a canonical object are canonical. -/
theorem Canonical.of_lookup {key : String} (h : Canonical (.object fields))
    (hlook : lookup key fields = some j) : Canonical j := by
  have hsorted : sortEntries (sortedFields fields) = fields := by
    rw [Canonical, sorted] at h
    exact Json.object.inj h
  have hascending : Ascending fields := hsorted ▸ ascending_sortEntries _
  have hshows := Decode.shows_sorted hascending.nodup key
  rw [hsorted, hlook] at hshows
  exact (Option.some.inj hshows).symm

/-! ### The reader -/

/-- A number is a whole number or a double. -/
theorem canonical_of_value? {n : Numeral} (h : n.value? = some j) : Canonical j := by
  have hsigned : ∀ (negative : Bool) (f : Option Float), f.map (signed negative) = some j →
      Canonical j := fun negative f hf => by
    obtain ⟨_, -, rfl⟩ := Option.map_eq_some_iff.mp hf
    rfl
  rw [Numeral.value?] at h
  dsimp only at h
  split at h
  · split at h
    · exact hsigned _ _ h
    · split at h
      · exact Option.some.inj h ▸ rfl
      · split at h
        · exact Option.some.inj h ▸ rfl
        · exact hsigned _ _ h
  · split at h
    · exact hsigned _ _ h
    · split at h
      · split at h
        · cases h
        · exact Option.some.inj h ▸ rfl
      · exact hsigned _ _ h

/-- A number that is skipped counts as null. -/
theorem canonical_of_number {keep : Bool} {cs rest : List Char}
    (h : number keep cs = some (j, rest)) : Canonical j := by
  rw [number] at h
  split at h
  · cases h
  · split at h
    · obtain ⟨value, hvalue, heq⟩ := Option.map_eq_some_iff.mp h
      obtain ⟨rfl, -⟩ := Prod.mk.inj heq
      exact canonical_of_value? hvalue
    · obtain ⟨rfl, -⟩ := Prod.mk.inj (Option.some.inj h)
      rfl

/-- With some fuel, all that the reader gives is canonical, provided that what it has seen so far
is. -/
structure ReadsCanonical (fuel : Nat) : Prop where
  value : ∀ {keep depth cs j rest}, Json.value keep fuel depth cs = some (j, rest) → Canonical j
  items : ∀ {keep depth seen cs items rest},
    Json.items keep fuel depth seen cs = some (items, rest) →
      (∀ item ∈ seen, Canonical item) → ∀ item ∈ items, Canonical item
  entries : ∀ {keepEntry keepKeys depth seen cs rest} {entries : List (String × Json)},
    Json.entries keepEntry keepKeys fuel depth seen cs = some (entries, rest) →
      (∀ entry ∈ seen, Canonical entry.2) → ∀ entry ∈ entries, Canonical entry.2

namespace ReadsCanonical

variable {keep keepKeys : Bool} {keepEntry : String → Bool} {depth fuel : Nat}
  {cs rest : List Char}

theorem value_succ (ih : ReadsCanonical fuel)
    (h : Json.value keep (fuel + 1) depth cs = some (j, rest)) : Canonical j := by
  rw [Json.value] at h
  split at h
  -- a string
  · obtain ⟨_, -, heq⟩ := Option.map_eq_some_iff.mp h
    exact (Prod.mk.inj heq).1 ▸ rfl
  -- an array
  · split at h
    · cases h
    · split at h
      · exact (Prod.mk.inj (Option.some.inj h)).1 ▸ rfl
      · obtain ⟨_, hitems, heq⟩ := Option.map_eq_some_iff.mp h
        exact (Prod.mk.inj heq).1 ▸ canonical_array (ih.items hitems nofun)
  -- an object
  · split at h
    · cases h
    · split at h
      · exact (Prod.mk.inj (Option.some.inj h)).1 ▸ rfl
      · obtain ⟨_, hentries, heq⟩ := Option.map_eq_some_iff.mp h
        exact (Prod.mk.inj heq).1 ▸ canonical_ofEntries (ih.entries hentries nofun)
  -- null, true and false
  · obtain ⟨_, -, heq⟩ := Option.map_eq_some_iff.mp h
    exact (Prod.mk.inj heq).1 ▸ rfl
  · obtain ⟨_, -, heq⟩ := Option.map_eq_some_iff.mp h
    exact (Prod.mk.inj heq).1 ▸ rfl
  · obtain ⟨_, -, heq⟩ := Option.map_eq_some_iff.mp h
    exact (Prod.mk.inj heq).1 ▸ rfl
  · exact canonical_of_number h

theorem items_succ (ih : ReadsCanonical fuel) {seen items : List Json}
    (h : Json.items keep (fuel + 1) depth seen cs = some (items, rest))
    (hseen : ∀ item ∈ seen, Canonical item) : ∀ item ∈ items, Canonical item := by
  rw [Json.items] at h
  split at h
  · cases h
  · next item rest hitem =>
    have hmore : ∀ other ∈ item :: seen, Canonical other :=
      List.forall_mem_cons.mpr ⟨ih.value hitem, hseen⟩
    split at h
    · exact ih.items h hmore
    · obtain ⟨rfl, -⟩ := Prod.mk.inj (Option.some.inj h)
      exact fun other hother => hmore other (List.mem_reverse.mp hother)
    · cases h

theorem entries_succ (ih : ReadsCanonical fuel) {seen entries : List (String × Json)}
    (h : Json.entries keepEntry keepKeys (fuel + 1) depth seen cs = some (entries, rest))
    (hseen : ∀ entry ∈ seen, Canonical entry.2) : ∀ entry ∈ entries, Canonical entry.2 := by
  rw [Json.entries] at h
  split at h
  · split at h
    · cases h
    · next key _ _ =>
      split at h
      · split at h
        · cases h
        · next item _ hitem =>
          have hmore : ∀ other ∈ (key, item) :: seen, Canonical other.2 :=
            List.forall_mem_cons.mpr ⟨ih.value hitem, hseen⟩
          split at h
          · exact ih.entries h hmore
          · obtain ⟨rfl, -⟩ := Prod.mk.inj (Option.some.inj h)
            exact fun other hother => hmore other (List.mem_reverse.mp hother)
          · cases h
      · cases h
  · cases h

/-- By induction on the fuel, since each part of the reader hands on less of it. -/
theorem all (fuel : Nat) : ReadsCanonical fuel := by
  induction fuel with
  | zero =>
      refine ⟨fun h => ?_, fun h => ?_, fun h => ?_⟩
      · rw [Json.value] at h
        cases h
      · rw [Json.items] at h
        cases h
      · rw [Json.entries] at h
        cases h
  | succ fuel ih => exact ⟨ih.value_succ, ih.items_succ, ih.entries_succ⟩

end ReadsCanonical

theorem exists_of_finish {α : Type} {x : α} {result : Option (α × List Char)}
    (h : finish result = some x) : ∃ rest, result = some (x, rest) := by
  cases result with
  | none => cases h
  | some result =>
      rw [finish] at h
      split at h
      · exact ⟨result.2, Option.some.inj h ▸ rfl⟩
      · cases h

/-- **What is read is canonical**, be it a value of any kind or the entries of an object. -/
theorem canonical_of_parseTop {keys : List String} {line : String}
    {read : Json ⊕ List (String × Json)} (h : parseTop keys line = some read) :
    read.elim Canonical fun entries => ∀ entry ∈ entries, Canonical entry.2 := by
  rw [parseTop] at h
  split at h
  · split at h
    · obtain ⟨entries, hentries, rfl⟩ := Option.map_eq_some_iff.mp h
      obtain ⟨rest, hrest⟩ := exists_of_finish hentries
      obtain ⟨rfl, -⟩ := Prod.mk.inj (Option.some.inj hrest)
      exact nofun
    · obtain ⟨entries, hentries, rfl⟩ := Option.map_eq_some_iff.mp h
      obtain ⟨rest, hrest⟩ := exists_of_finish hentries
      exact (ReadsCanonical.all _).entries hrest nofun
  · obtain ⟨value, hvalue, rfl⟩ := Option.map_eq_some_iff.mp h
    obtain ⟨rest, hrest⟩ := exists_of_finish hvalue
    exact (ReadsCanonical.all _).value hrest

end CoEdit.Json

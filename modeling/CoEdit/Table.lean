/-!
# Tables

Finite maps from names to values that remember the order in which the names were first put in. No
name occurs twice; this is part of the type.

## Main definitions

* `Table`, with `get?`, `put`, `erase`, `filter`, `keys`, `values`.

## Main results

* `get?_put`, `get?_erase`, `get?_filter`: what each operation does to every look-up.
-/

namespace CoEdit

/-- A finite map from names to values, in order of first insertion. -/
structure Table (α : Type) where
  entries : List (String × α)
  nodup : (entries.map Prod.fst).Nodup

namespace Table

variable {α : Type}

/-- The table without entries. -/
def empty : Table α := ⟨[], List.nodup_nil⟩

instance : Inhabited (Table α) := ⟨empty⟩

/-- The value under a name. -/
def get? (t : Table α) (name : String) : Option α :=
  t.entries.lookup name

/-- Whether a name has a value. -/
def contains (t : Table α) (name : String) : Bool :=
  (t.get? name).isSome

/-- The names, in order of first insertion. -/
def keys (t : Table α) : List String :=
  t.entries.map Prod.fst

/-- The values, in order of first insertion of their names. -/
def values (t : Table α) : List α :=
  t.entries.map Prod.snd

/-- The number of names. -/
def size (t : Table α) : Nat :=
  t.entries.length

/-- Replaces the value of a name in place, or puts the entry at the end. -/
def putEntry (name : String) (value : α) : List (String × α) → List (String × α)
  | [] => [(name, value)]
  | (k, v) :: rest => if k = name then (name, value) :: rest else (k, v) :: putEntry name value rest

theorem mem_keys_putEntry {name k : String} {value : α} {l : List (String × α)} :
    k ∈ (putEntry name value l).map Prod.fst ↔ k = name ∨ k ∈ l.map Prod.fst := by
  induction l with
  | nil => simp [putEntry]
  | cons e rest ih =>
    obtain ⟨k', v⟩ := e
    by_cases h : k' = name
    · subst h; simp [putEntry]
    · simp only [putEntry, h, if_false, List.map_cons, List.mem_cons, ih]
      exact or_left_comm

theorem nodup_putEntry {name : String} {value : α} {l : List (String × α)}
    (h : (l.map Prod.fst).Nodup) : ((putEntry name value l).map Prod.fst).Nodup := by
  induction l with
  | nil => simp [putEntry]
  | cons e rest ih =>
    obtain ⟨k, v⟩ := e
    simp only [List.map_cons, List.nodup_cons] at h
    by_cases hk : k = name
    · subst hk; simpa [putEntry] using h
    · simp only [putEntry, hk, if_false, List.map_cons, List.nodup_cons]
      exact ⟨fun hm => (mem_keys_putEntry.1 hm).elim hk h.1, ih h.2⟩

/-- Gives a name a value. -/
def put (t : Table α) (name : String) (value : α) : Table α :=
  ⟨putEntry name value t.entries, nodup_putEntry t.nodup⟩

/-- Keeps the entries that pass a test. -/
def filter (t : Table α) (keep : String → α → Bool) : Table α :=
  ⟨t.entries.filter fun e => keep e.1 e.2, (List.filter_sublist.map Prod.fst).nodup t.nodup⟩

/-- Takes a name out. -/
def erase (t : Table α) (name : String) : Table α :=
  t.filter fun k _ => k ≠ name

/-! ### Look-ups after each operation -/

@[simp] theorem get?_empty (name : String) : (empty : Table α).get? name = none := rfl

theorem lookup_cons_eq (name key : String) (value : α) (rest : List (String × α)) :
    ((name, value) :: rest).lookup key = if key = name then some value else rest.lookup key := by
  by_cases h : key = name
  · simp [h]
  · have : (key == name) = false := by simpa using h
    simp [List.lookup_cons, this, h]

theorem get?_put (t : Table α) (name key : String) (value : α) :
    (t.put name value).get? key = if key = name then some value else t.get? key := by
  obtain ⟨l, hl⟩ := t
  simp only [put, get?]
  clear hl
  induction l with
  | nil => simp [putEntry, lookup_cons_eq]
  | cons e rest ih =>
    obtain ⟨k, v⟩ := e
    by_cases hk : k = name
    · subst hk
      by_cases h : key = k <;> simp [putEntry, lookup_cons_eq, h]
    · by_cases h : key = k
      · subst h; simp [putEntry, hk]
      · simp [putEntry, lookup_cons_eq, hk, h, ih]

@[simp] theorem get?_put_self (t : Table α) (name : String) (value : α) :
    (t.put name value).get? name = some value := by
  simp [get?_put]

theorem get?_put_of_ne (t : Table α) {name key : String} (value : α) (h : key ≠ name) :
    (t.put name value).get? key = t.get? key := by
  simp [get?_put, h]

theorem mem_of_lookup {l : List (String × α)} {name : String} {value : α}
    (h : l.lookup name = some value) : (name, value) ∈ l := by
  induction l with
  | nil => simp at h
  | cons e rest ih =>
    obtain ⟨k, v⟩ := e
    rw [lookup_cons_eq] at h
    split at h
    · next hk => subst hk; obtain rfl := Option.some.inj h; exact List.mem_cons_self
    · exact List.mem_cons_of_mem _ (ih h)

theorem lookup_of_mem {l : List (String × α)} (hl : (l.map Prod.fst).Nodup) {name : String}
    {value : α} (h : (name, value) ∈ l) : l.lookup name = some value := by
  induction l with
  | nil => simp at h
  | cons e rest ih =>
    obtain ⟨k, v⟩ := e
    simp only [List.map_cons, List.nodup_cons] at hl
    rw [lookup_cons_eq]
    rcases List.mem_cons.1 h with h | h
    · obtain ⟨rfl, rfl⟩ := Prod.mk.inj h
      simp
    · have hne : name ≠ k := fun e => hl.1 (e ▸ List.mem_map.2 ⟨_, h, rfl⟩)
      rw [if_neg hne, ih hl.2 h]

/-- An entry is listed exactly where the look-up of its name finds it. -/
theorem mem_entries_iff {t : Table α} {name : String} {value : α} :
    (name, value) ∈ t.entries ↔ t.get? name = some value :=
  ⟨lookup_of_mem t.nodup, mem_of_lookup⟩

theorem putEntry_of_lookup {l : List (String × α)} {name : String} {value : α}
    (h : l.lookup name = some value) : putEntry name value l = l := by
  induction l with
  | nil => simp at h
  | cons e rest ih =>
    obtain ⟨k, v⟩ := e
    rw [lookup_cons_eq] at h
    rw [putEntry]
    by_cases hk : k = name
    · subst hk
      obtain rfl := Option.some.inj ((if_pos rfl).symm.trans h)
      exact if_pos rfl
    · rw [if_neg (Ne.symm hk)] at h
      rw [if_neg hk, ih h]

/-- Giving a name the value that it has changes nothing. -/
theorem put_eq_self {t : Table α} {name : String} {value : α} (h : t.get? name = some value) :
    t.put name value = t := by
  obtain ⟨l, hl⟩ := t
  simp only [put, putEntry_of_lookup h]

theorem get?_filter (t : Table α) (keep : String → α → Bool) (key : String) :
    (t.filter keep).get? key = (t.get? key).filter (keep key) := by
  refine Option.ext fun v => ?_
  rw [← mem_entries_iff, filter, List.mem_filter, mem_entries_iff, Option.filter_eq_some_iff]

theorem get?_erase (t : Table α) (name key : String) :
    (t.erase name).get? key = if key = name then none else t.get? key := by
  rw [erase, get?_filter]
  by_cases h : key = name
  · cases t.get? key <;> simp [h]
  · cases t.get? key <;> simp [h]

end Table

end CoEdit

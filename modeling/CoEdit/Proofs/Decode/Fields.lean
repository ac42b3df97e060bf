import CoEdit.Decode.Record
import Mathlib.Data.List.Induction
import Mathlib.Tactic.Common

/-!
# Reading Records by Their Keys

A decoder sees objects in canonical form, with entries in ascending order, and the envelope of a
spread or tagged value takes its own entries out first. None of this matters to a record, which
only looks up keys: what it reads depends on the entries under its keys alone.

## Main definitions

* `Decode.Reads`: a decoder takes a value, in canonical form, as a given one.
* `Decode.Shows`: a list of entries holds, in canonical form, what another one lists.
* `Decode.Record.Reads`: a record takes every list that shows given entries as a given value.
* `Decode.OfCase`: entries with the tag of a case in front, whose record takes the others.

## Main results

* `Json.lookup_sortEntries`: in ascending order the last entry of a key is found.
* `Decode.reads_record`, `Decode.taggedFields_eq`, `Decode.flattened_eq`: records by themselves,
  cases of a choice, and records with a second part spread among their fields.
-/

namespace CoEdit

namespace Json

variable {key : String} {fields entries : List (String × Json)}

/-! ### Looking up keys -/

theorem lookup_cons (key : String) (entry : String × Json) (fields : List (String × Json)) :
    lookup key (entry :: fields) = if key = entry.1 then some entry.2 else lookup key fields := by
  rw [lookup, List.lookup_cons]
  split <;> simp_all [lookup]

theorem lookup_append (key : String) (fields others : List (String × Json)) :
    lookup key (fields ++ others) = (lookup key fields).or (lookup key others) := by
  rw [lookup, List.lookup_append]
  rfl

/-- Putting an entry changes what is found under its key only. -/
theorem lookup_putSorted (key other : String) (value : Json) (fields : List (String × Json)) :
    lookup key (putSorted other value fields) =
      if key = other then some value else lookup key fields := by
  induction fields with
  | nil => rw [putSorted, lookup_cons]
  | cons entry fields ih =>
      rw [putSorted]
      split
      · rw [lookup_cons]
      · split
        · next heq =>
          rw [lookup_cons, lookup_cons, heq]
          split <;> rfl
        · next hne =>
          rw [lookup_cons, lookup_cons, ih]
          split
          · next h =>
            have hnot : key ≠ other := fun hkey => hne (hkey ▸ h)
            rw [if_neg hnot]
          · rfl

/-- In ascending order the last entry of a key is found. -/
theorem lookup_sortEntries (key : String) (entries : List (String × Json)) :
    lookup key (sortEntries entries) = lookup key entries.reverse := by
  induction entries using List.reverseRecOn with
  | nil => rfl
  | append_singleton entries entry ih =>
      have hput : sortEntries (entries ++ [entry]) =
          putSorted entry.1 entry.2 (sortEntries entries) := by
        rw [sortEntries, List.foldl_append]
        rfl
      rw [hput, lookup_putSorted, ih, List.reverse_append, List.reverse_singleton,
        List.singleton_append, lookup_cons]

theorem lookup_eq_none (h : key ∉ fields.map Prod.fst) : lookup key fields = none := by
  rw [lookup, List.lookup_eq_none_iff]
  intro entry hentry
  have hne : key ≠ entry.1 := by
    rintro rfl
    exact h (List.mem_map_of_mem hentry)
  simpa using hne

/-- Where keys do not repeat, the order does not matter. -/
theorem lookup_reverse (h : (fields.map Prod.fst).Nodup) :
    lookup key fields.reverse = lookup key fields := by
  induction fields with
  | nil => rfl
  | cons entry fields ih =>
      rw [List.map_cons, List.nodup_cons] at h
      rw [List.reverse_cons, lookup_append, ih h.2, lookup_cons, lookup_cons]
      split
      · next hkey =>
        rw [hkey, lookup_eq_none h.1]
        rfl
      · exact Option.or_none

theorem lookup_perm (h : fields.Perm entries) (hkeys : (fields.map Prod.fst).Nodup) :
    lookup key fields = lookup key entries := by
  induction h with
  | nil => rfl
  | cons entry _ ih =>
      rw [List.map_cons, List.nodup_cons] at hkeys
      rw [lookup_cons, lookup_cons, ih hkeys.2]
  | swap entry other rest =>
      rw [List.map_cons, List.map_cons, List.nodup_cons, List.mem_cons] at hkeys
      rw [lookup_cons, lookup_cons, lookup_cons, lookup_cons]
      split
      · next hother =>
        have hne : key ≠ entry.1 := fun hentry => hkeys.1 (.inl (hother.symm.trans hentry))
        rw [if_neg hne]
      · rfl
  | trans h _ ih ih' => exact (ih hkeys).trans (ih' ((h.map Prod.fst).nodup_iff.mp hkeys))

theorem lookup_sortedFields (key : String) (fields : List (String × Json)) :
    lookup key (sortedFields fields) = (lookup key fields).map sorted := by
  induction fields with
  | nil => rfl
  | cons entry fields ih =>
      rw [sortedFields, lookup_cons, lookup_cons, ih]
      split <;> rfl

theorem map_fst_sortedFields (fields : List (String × Json)) :
    (sortedFields fields).map Prod.fst = fields.map Prod.fst := by
  induction fields with
  | nil => rfl
  | cons entry fields ih => rw [sortedFields, List.map_cons, List.map_cons, ih]

/-- Entries that are taken out are not found, all others are. -/
theorem lookup_filter (keep : String → Bool) (key : String) (fields : List (String × Json)) :
    lookup key (fields.filter fun entry => keep entry.1) =
      if keep key then lookup key fields else none := by
  induction fields with
  | nil =>
      rw [List.filter_nil]
      split <;> rfl
  | cons entry fields ih =>
      rw [List.filter_cons, lookup_cons]
      split
      · next hkeep =>
        rw [lookup_cons, ih]
        split
        · next hkey => rw [hkey, if_pos hkeep]
        · rfl
      · next hdrop =>
        rw [ih]
        split
        · next hkeep =>
          have hne : key ≠ entry.1 := fun hkey => hdrop (hkey ▸ hkeep)
          rw [if_neg hne]
        · rfl

end Json

namespace Decode

open CoEdit.Json (lookup sortEntries sortedFields)

variable {α β γ : Type} {key : String} {j : Json} {fields shown : List (String × Json)}

/-- The decoder takes the value as a given one, wherever it finds it. -/
def Reads (decode : Decoder α) (j : Json) (x : α) : Prop :=
  ∀ source, decode source j.sorted = .ok x

/-- The list holds what is shown, in canonical form. -/
def Shows (fields shown : List (String × Json)) : Prop :=
  ∀ key, lookup key fields = (lookup key shown).map Json.sorted

/-- The canonical form of an object shows its entries, in whatever order they are written. -/
theorem shows_sorted_of_perm (h : fields.Perm shown) (hkeys : (shown.map Prod.fst).Nodup) :
    Shows (sortEntries (sortedFields fields)) shown := by
  intro key
  have hfields : (fields.map Prod.fst).Nodup := (h.map Prod.fst).nodup_iff.mpr hkeys
  have hnodup : ((sortedFields fields).map Prod.fst).Nodup := by
    rwa [Json.map_fst_sortedFields]
  rw [Json.lookup_sortEntries, Json.lookup_reverse hnodup, Json.lookup_sortedFields,
    Json.lookup_perm h hfields]

theorem shows_sorted (h : (shown.map Prod.fst).Nodup) :
    Shows (sortEntries (sortedFields shown)) shown :=
  shows_sorted_of_perm (.refl shown) h

theorem Shows.filter (h : Shows fields shown) (keep : String → Bool) :
    Shows (fields.filter fun entry => keep entry.1) (shown.filter fun entry => keep entry.1) := by
  intro key
  rw [Json.lookup_filter, Json.lookup_filter, h key]
  split <;> rfl

/-! ### Records -/

namespace Record

section Parts

variable {x : α} {source : Source}

theorem ofObject_eq_ok {r : Record α} (h : r.ofFields source fields = .ok x) :
    r.ofObject source fields = .ok x := by
  rw [ofObject, h]
  rfl

/-- What is read from the fields is put together. -/
theorem ofFields_map {r : Record α} (h : r.ofFields source fields = .ok x) (f : α → β) :
    (f <$> r).ofFields source fields = .ok (f x) := by
  change merge (fun f x => f x) (.ok f) (r.ofFields source fields) = _
  rw [h]
  rfl

theorem ofFields_seq {r : Record (α → β)} {s : Record α} {f : α → β}
    (hr : r.ofFields source fields = .ok f) (hs : s.ofFields source fields = .ok x) :
    (r <*> s).ofFields source fields = .ok (f x) := by
  change merge (fun f x => f x) (r.ofFields source fields) (s.ofFields source fields) = _
  rw [hr, hs]
  rfl

end Parts

/-- The record takes every list that shows the entries as a given value. -/
def Reads (r : Record α) (shown : List (String × Json)) (x : α) : Prop :=
  ∀ source fields, Shows fields shown → r.ofFields source fields = .ok x

theorem reads_field {decode : Decoder α} {absent short : Option α} {x : α}
    (hlook : lookup key shown = some j) (h : Decode.Reads decode j x) :
    (field key decode absent short).Reads shown x := by
  intro source fields hshows
  have hfound : lookup key fields = some j.sorted := by
    rw [hshows key, hlook]
    rfl
  rw [field]
  dsimp only
  rw [hfound]
  dsimp only
  rw [h source]
  rfl

theorem reads_required {decode : Decoder α} {x : α} (hlook : lookup key shown = some j)
    (h : Decode.Reads decode j x) : (required key decode).Reads shown x :=
  reads_field hlook h

theorem reads_defaulted {decode : Decoder α} {default x : α} (hlook : lookup key shown = some j)
    (h : Decode.Reads decode j x) : (defaulted key decode default).Reads shown x :=
  reads_field hlook h

theorem reads_optional {decode : Decoder (Option α)} {x : Option α}
    (hlook : lookup key shown = some j) (h : Decode.Reads decode j x) :
    (optional key decode).Reads shown x :=
  reads_field hlook h

/-- A field that an object lacks is none. -/
theorem reads_optional_none {decode : Decoder (Option α)} (hlook : lookup key shown = none) :
    (optional key decode).Reads shown none := by
  intro source fields hshows
  have hfound : lookup key fields = none := by
    rw [hshows key, hlook]
    rfl
  rw [optional, field]
  dsimp only
  rw [hfound]

theorem Reads.ofObject {r : Record α} {x : α} (h : r.Reads shown x) (hshows : Shows fields shown)
    (source : Source) : r.ofObject source fields = .ok x :=
  ofObject_eq_ok (h source fields hshows)

theorem Reads.map {r : Record α} {x : α} (h : r.Reads shown x) (f : α → β) :
    (f <$> r).Reads shown (f x) := fun source fields hshows =>
  ofFields_map (h source fields hshows) f

theorem Reads.seq {r : Record (α → β)} {s : Record α} {f : α → β} {x : α}
    (hf : r.Reads shown f) (hx : s.Reads shown x) : (r <*> s).Reads shown (f x) :=
  fun source fields hshows => ofFields_seq (hf source fields hshows) (hx source fields hshows)

end Record

/-- A record by itself is read from its object. -/
theorem reads_record {r : Record α} {x : α} (h : r.Reads shown x)
    (hkeys : (shown.map Prod.fst).Nodup) (name : String) :
    Reads (r.decode name) (.object shown) x := by
  intro source
  rw [Json.sorted, Record.decode]
  exact h.ofObject (shows_sorted hkeys) source

/-- A case of a choice is read from its tag and its entries. -/
theorem taggedFields_eq {cases : List (Case α)} {c : Case α} {payload : List (String × Json)}
    {x : α} (hshows : Shows fields ((tagKey, .text c.tag) :: payload))
    (hcase : cases.find? (·.tag = c.tag) = some c) (htag : tagKey ∉ payload.map Prod.fst)
    (h : c.payload.Reads payload x) (source : Source) :
    taggedFields cases source fields = .ok x := by
  have htagged : lookup tagKey fields = some (.text c.tag) := by
    rw [hshows tagKey, Json.lookup_cons, if_pos rfl]
    rfl
  have hpayload : Shows (fields.filter (·.1 ≠ tagKey)) payload := by
    have hothers : ((tagKey, Json.text c.tag) :: payload).filter (·.1 ≠ tagKey) = payload := by
      rw [List.filter_cons_of_neg (by simp), List.filter_eq_self]
      intro entry hentry
      have hne : entry.1 ≠ tagKey := fun heq => htag (heq ▸ List.mem_map_of_mem hentry)
      simpa using hne
    have hfilter := hshows.filter (· ≠ tagKey)
    rwa [hothers] at hfilter
  have hchosen : caseOf cases source (.text c.tag) = .ok c := by
    rw [caseOf, hcase]
  rw [taggedFields, htagged]
  dsimp only
  rw [hchosen]
  exact h.ofObject hpayload .buffered

/-- A choice by itself is read from its object. -/
theorem reads_tagged {cases : List (Case α)} {c : Case α} {payload : List (String × Json)} {x : α}
    (hcase : cases.find? (·.tag = c.tag) = some c)
    (hkeys : (tagKey :: payload.map Prod.fst).Nodup) (h : c.payload.Reads payload x)
    (name : String) : Reads (tagged name cases) (.object ((tagKey, .text c.tag) :: payload)) x := by
  intro source
  rw [Json.sorted, tagged]
  exact taggedFields_eq (shows_sorted hkeys) hcase (List.nodup_cons.mp hkeys).1 h source

/-- The entries are those of a case of the choice, its tag in front, and the case takes them as a
given value. -/
def OfCase (cases : List (Case α)) (shown : List (String × Json)) (x : α) : Prop :=
  ∃ c payload, shown = (tagKey, .text c.tag) :: payload ∧
    cases.find? (·.tag = c.tag) = some c ∧ c.payload.Reads payload x

/-- The entries of a case are decoded from any list that shows them. -/
theorem OfCase.taggedFields_eq {cases : List (Case α)} {x : α} (h : OfCase cases shown x)
    (hkeys : (shown.map Prod.fst).Nodup) (hshows : Shows fields shown) (source : Source) :
    taggedFields cases source fields = .ok x := by
  obtain ⟨c, payload, rfl, hcase, hpayload⟩ := h
  rw [List.map_cons, List.nodup_cons] at hkeys
  exact Decode.taggedFields_eq hshows hcase hkeys.1 hpayload source

theorem OfCase.reads {cases : List (Case α)} {x : α} (h : OfCase cases shown x)
    (hkeys : (shown.map Prod.fst).Nodup) (name : String) :
    Reads (tagged name cases) (.object shown) x := by
  intro source
  rw [Json.sorted, tagged]
  exact h.taggedFields_eq hkeys (shows_sorted hkeys) source

/-- A record with a second part spread among its fields is read from the entries of both. -/
theorem flattened_eq {own : Record α} {rest : List (String × Json) → Except Cause β}
    {make : α → β → γ} {others : List (String × Json)} {a : α} {b : β}
    (hkeys : ((shown ++ others).map Prod.fst).Nodup) (hown : own.Reads (shown ++ others) a)
    (hrest : ∀ fields, Shows fields others → rest fields = .ok b)
    (hshows : Shows fields (shown ++ others)) (name : String) (source : Source) :
    flattened name (shown.map Prod.fst) own rest make source (.object fields) =
      .ok (make a b) := by
  -- What is left once the envelope has taken its own keys is the second part, and nothing else.
  have hothers : Shows (fields.filter (!(shown.map Prod.fst).contains ·.1)) others := by
    have hfilter := hshows.filter fun key => !(shown.map Prod.fst).contains key
    rw [List.map_append, List.nodup_append] at hkeys
    have hown : shown.filter (!(shown.map Prod.fst).contains ·.1) = [] := by
      rw [List.filter_eq_nil_iff]
      intro entry hentry
      have hmem : entry.1 ∈ shown.map Prod.fst := List.mem_map_of_mem hentry
      simp only [List.contains_eq_mem, hmem, decide_true, Bool.not_true, Bool.false_eq_true,
        not_false_eq_true]
    have hrest : others.filter (!(shown.map Prod.fst).contains ·.1) = others := by
      rw [List.filter_eq_self]
      intro entry hentry
      have hmem : entry.1 ∉ shown.map Prod.fst := fun hmem =>
        hkeys.2.2 _ hmem _ (List.mem_map_of_mem hentry) rfl
      simp only [List.contains_eq_mem, hmem, decide_false, Bool.not_false]
    rwa [List.filter_append, hown, hrest, List.nil_append] at hfilter
  rw [flattened, hown.ofObject hshows]
  change (rest _ >>= fun b => pure (make a b)) = _
  rw [hrest _ hothers]
  rfl

/-- In an object, the entries of both parts may stand in any order. -/
theorem reads_flattened {own : Record α} {rest : List (String × Json) → Except Cause β}
    {make : α → β → γ} {others : List (String × Json)} {a : α} {b : β}
    (shown : List (String × Json)) (hperm : fields.Perm (shown ++ others))
    (hkeys : ((shown ++ others).map Prod.fst).Nodup) (hown : own.Reads (shown ++ others) a)
    (hrest : ∀ fields, Shows fields others → rest fields = .ok b) (name : String) :
    Reads (flattened name (shown.map Prod.fst) own rest make) (.object fields) (make a b) := by
  intro source
  rw [Json.sorted]
  exact flattened_eq hkeys hown hrest (shows_sorted_of_perm hperm hkeys) name source

end Decode

end CoEdit

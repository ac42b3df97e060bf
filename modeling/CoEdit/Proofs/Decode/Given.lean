import CoEdit.Proofs.Decode.Fields
import CoEdit.Proofs.Session.Outcome

/-!
# What Entries Give

The entries of an object give a value if there is one under its key and a decoder takes it. Fields
that have to be there are read just if they are given. Those that may be lacking are read, too, if
they are lacking or null, but not if there is a value of the wrong kind.

## Main definitions

* `Decode.Gives`: entries give a value under a key.
* `Decode.SourceFree`: a decoder that takes values alike wherever it finds them.
* `Decode.Tolerates`: entries hold nothing wrong under a key.

## Main results

* `Decode.Record.gives_of_required`, `Decode.Record.gives_of_optional`: fields that are read are
  given.
* `Decode.Record.ofFields_required`, `Decode.Record.ofFields_optional_eq_some`: fields that are
  given are read.
* `Decode.Record.exists_ofFields_optional_iff`: which optional fields are read at all.
-/

namespace CoEdit

open CoEdit.Json (lookup)

namespace Decode

variable {α : Type} {key : String} {fields shown : List (String × Json)} {decode : Decoder α}
  {x : α} {source : Source}

/-- There is a value under the key, and it is taken as `x`, wherever it is found. -/
def Gives (fields : List (String × Json)) (key : String) (decode : Decoder α) (x : α) : Prop :=
  ∃ j, lookup key fields = some j ∧ ∀ source, decode source j = .ok x

theorem Gives.congr (h : Gives shown key decode x) (hlook : lookup key fields = lookup key shown) :
    Gives fields key decode x := by
  obtain ⟨j, hj, hdecode⟩ := h
  exact ⟨j, hlook.trans hj, hdecode⟩

/-- Entries under other keys may be taken out. -/
theorem Gives.filter {tag : String} (h : Gives fields key decode x) (hkey : key ≠ tag) :
    Gives (fields.filter (·.1 ≠ tag)) key decode x := by
  refine h.congr ?_
  rw [Json.lookup_filter (fun key => decide (key ≠ tag)), if_pos (decide_eq_true hkey)]

/-- The decoder takes a value alike wherever it finds it. -/
def SourceFree (decode : Decoder α) : Prop :=
  ∀ source other j, decode source j = decode other j

theorem sourceFree_text : SourceFree text := fun _ _ j => by cases j <;> rfl

theorem sourceFree_count : SourceFree count := fun _ _ j => by cases j <;> rfl

/-- So whatever is taken as a value once is given. -/
theorem SourceFree.gives (hfree : SourceFree decode) {j : Json} (hj : lookup key fields = some j)
    (h : decode source j = .ok x) : Gives fields key decode x :=
  ⟨j, hj, fun other => (hfree other source j).trans h⟩

theorem Gives.lookup_text {s : String} (h : Gives fields key text s) :
    lookup key fields = some (.text s) := by
  obtain ⟨j, hj, hdecode⟩ := h
  cases j with
  | text other =>
      obtain rfl := Except.ok.inj (hdecode .direct)
      exact hj
  | _ => cases hdecode .direct

/-- Where a value that may be null is some value, it is not null. -/
theorem of_nullable_eq_some {j : Json} (h : nullable decode source j = .ok (some x)) :
    decode source j = .ok x := by
  cases j with
  | null => cases h
  | _ =>
      obtain ⟨y, hy, heq⟩ := map_eq_ok.mp h
      exact Option.some.inj heq ▸ hy

/-- Whatever is taken as a value is so too where it may be null, if null itself is not. -/
theorem nullable_eq_some {j : Json} (hnull : ∀ x, decode source .null ≠ .ok x)
    (h : decode source j = .ok x) : nullable decode source j = .ok (some x) := by
  cases j with
  | null => exact absurd h (hnull x)
  | _ => exact map_eq_ok.mpr ⟨x, h, rfl⟩

theorem exists_nullable_iff {j : Json} :
    (∃ x, nullable decode source j = .ok x) ↔ j = .null ∨ ∃ x, decode source j = .ok x := by
  cases j with
  | null => exact iff_of_true ⟨none, rfl⟩ (.inl rfl)
  | _ => simp [nullable, map_eq_ok]

/-- There is no value under the key, or it is null, or it is of the right kind. -/
def Tolerates (fields : List (String × Json)) (key : String) (decode : Decoder α) : Prop :=
  ∀ j, lookup key fields = some j → j = .null ∨ ∃ x, decode .direct j = .ok x

namespace Record

/-- A field is the value under its key, or else the value for its absence. -/
theorem ofFields_field_eq_ok {absent short : Option α} :
    (field key decode absent short).ofFields source fields = .ok x ↔
      (∃ j, lookup key fields = some j ∧ decode source j = .ok x) ∨
        (lookup key fields = none ∧ absent = some x) := by
  rw [field]
  dsimp only
  cases lookup key fields with
  | none => cases absent <;> simp
  | some j => cases hj : decode source j <;> simp [Except.mapError, hj]

theorem ofFields_required_eq_ok : (required key decode).ofFields source fields = .ok x ↔
    ∃ j, lookup key fields = some j ∧ decode source j = .ok x := by
  rw [required, ofFields_field_eq_ok]
  simp

/-- A field that has to be there gives its value. -/
theorem gives_of_required (hfree : SourceFree decode)
    (h : (required key decode).ofFields source fields = .ok x) : Gives fields key decode x := by
  obtain ⟨j, hj, hdecode⟩ := ofFields_required_eq_ok.mp h
  exact hfree.gives hj hdecode

/-- So does a field that may be lacking or null, where it is neither. -/
theorem gives_of_optional (hfree : SourceFree decode)
    (h : (optional key (nullable decode)).ofFields source fields = .ok (some x)) :
    Gives fields key decode x := by
  rcases ofFields_field_eq_ok.mp h with ⟨j, hj, hdecode⟩ | ⟨-, habsent⟩
  · exact hfree.gives hj (of_nullable_eq_some hdecode)
  · cases habsent

/-- If there is such a value, it is that value. -/
theorem ofFields_optional_eq_some (hnull : ∀ x, decode source .null ≠ .ok x)
    (h : Gives fields key decode x) :
    (optional key (nullable decode)).ofFields source fields = .ok (some x) := by
  obtain ⟨j, hj, hdecode⟩ := h
  exact ofFields_field_eq_ok.mpr (.inl ⟨j, hj, nullable_eq_some hnull (hdecode source)⟩)

/-- Such a field is read if it is tolerated, and only then. -/
theorem exists_ofFields_optional_iff :
    (∃ x, (optional key (nullable decode)).ofFields .direct fields = .ok x) ↔
      Tolerates fields key decode := by
  simp only [Tolerates, ← exists_nullable_iff, optional, ofFields_field_eq_ok]
  cases lookup key fields with
  | none => simp
  | some j => simp

theorem ofFields_required (h : Gives fields key decode x) (source : Source) :
    (required key decode).ofFields source fields = .ok x := by
  obtain ⟨j, hj, hdecode⟩ := h
  exact ofFields_required_eq_ok.mpr ⟨j, hj, hdecode source⟩

end Record

end Decode

end CoEdit

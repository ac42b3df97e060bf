import CoEdit.Proofs.Decode.Given

/-!
# Parameters at Their Places

Parameters come as an object, by keys, or as an array, in order. Some may be lacking and stand for a
default, some may be null. What is at a place, and what it stands for, is told here apart from the
decoders, and a record reads just this: each of its fields the parameter at its place.

## Main definitions

* `Decode.param?`: the parameter at a place, `Decode.Within`: the shape of parameters.
* `Decode.Stands`, `Decode.Optionally`: parameters that may be lacking.
* `Decode.Record.At`: what a record reads from a place on.

## Main results

* `Decode.Record.decode_eq_ok_iff`: a record reads objects by keys and arrays in order.
* `Decode.Record.at_required`, `Decode.Record.at_defaulted`, `Decode.Record.at_optional`: a field is
  what its parameter stands for.
-/

namespace CoEdit.Decode

open CoEdit.Json (lookup)

/-! ### Places -/

section Places

variable {α : Type}

/-- The parameter at a place: under its key in an object, by its position in an array. -/
def param? (p : Json) (index : Nat) (key : String) : Option Json :=
  match p with
  | .object fields => lookup key fields
  | .array items => items[index]?
  | _ => none

/-- Parameters are an object, or an array of so many at most. -/
def Within (p : Json) (most : Nat) : Prop :=
  match p with
  | .object _ => True
  | .array items => items.length ≤ most
  | _ => False

/-- A parameter that may be lacking stands for a value: for what it denotes if it is there, and else
for the default. -/
def Stands (given : Option Json) (denotes : Json → α → Prop) (default x : α) : Prop :=
  match given with
  | some j => denotes j x
  | none => x = default

/-- A parameter that may be null, and that an object may lack, stands for a value or for none. -/
def Optionally (p : Json) (index : Nat) (key : String) (write : α → Json) : Option α → Prop
  | some x => param? p index key = some (write x)
  | none => param? p index key = some .null ∨
      param? p index key = none ∧ ∃ fields, p = .object fields

/-- A value that may be null denotes a value or none. -/
def OrNull (write : α → Json) (j : Json) (x : Option α) : Prop :=
  j = (x.map write).getD .null

end Places

/-! ### Values -/

section Values

variable {j : Json} {source : Source}

theorem text_eq_ok_iff {s : String} : text source j = .ok s ↔ j = .text s := by
  cases j <;> simp [text]

theorem bool_eq_ok_iff {b : Bool} : bool source j = .ok b ↔ j = .boolean b := by
  cases j <;> simp [bool]

theorem count_eq_ok_iff {n : Nat} : count source j = .ok n ↔ j = .nat n := by
  cases j with
  | whole m =>
      rw [count, unsigned, Json.nat]
      split
      · next hneg =>
        simp only [reduceCtorEq, Json.whole.injEq, false_iff]
        omega
      · simp only [Except.ok.injEq, Json.whole.injEq]
        omega
  | _ => simp [count, unsigned, Json.nat]

theorem nullable_eq_ok_iff {α : Type} {decode : Decoder α} (write : α → Json)
    (h : ∀ {j x}, decode source j = .ok x ↔ j = write x) (hnull : ∀ x, write x ≠ .null)
    {x : Option α} : nullable decode source j = .ok x ↔ OrNull write j x := by
  have hval : ∀ {x}, nullable decode source j = .ok x →
      j = .null ∧ x = none ∨ ∃ y, x = some y ∧ j = write y := fun {x} hx => by
    cases j with
    | null => exact .inl ⟨rfl, (Except.ok.inj hx).symm⟩
    | _ =>
        obtain ⟨y, hy, rfl⟩ := map_eq_ok.mp hx
        exact .inr ⟨y, rfl, h.mp hy⟩
  constructor
  · intro hx
    rcases hval hx with ⟨rfl, rfl⟩ | ⟨y, rfl, rfl⟩
    · rfl
    · rfl
  · intro hx
    cases x with
    | none =>
        obtain rfl : j = .null := hx
        rfl
    | some x =>
        obtain rfl : j = write x := hx
        exact nullable_eq_some (fun y hy => hnull y (h.mp hy).symm) (h.mpr rfl)

end Values

/-! ### Records -/

section Parts

variable {α β ε ε' : Type} {source : Source} {fields : List (String × Json)}
  {items rest : List Json}

theorem mapError_eq_ok {x : Except ε α} {f : ε → ε'} {a : α} :
    x.mapError f = .ok a ↔ x = .ok a := by
  cases x <;> simp [Except.mapError]

end Parts

namespace Record

variable {α β : Type} {p : Json} {i : Nat} {source : Source} {fields : List (String × Json)}
  {items rest : List Json} {key : String} {decode : Decoder α} {x : α} {b : β}

/-- A record with one more field reads an object if both parts do. -/
theorem ofFields_seq_eq_ok {r : Record (α → β)} {r' : Record α} :
    (r <*> r').ofFields source fields = .ok b ↔
      ∃ f a, r.ofFields source fields = .ok f ∧ r'.ofFields source fields = .ok a ∧ f a = b := by
  change merge (fun f x => f x) (r.ofFields source fields) (r'.ofFields source fields) = _ ↔ _
  cases r.ofFields source fields <;> cases r'.ofFields source fields <;> simp [merge]

theorem ofFields_map_eq_ok {r : Record α} {f : α → β} :
    (f <$> r).ofFields source fields = .ok b ↔ ∃ a, r.ofFields source fields = .ok a ∧ f a = b := by
  change merge (fun f x => f x) (.ok f) (r.ofFields source fields) = _ ↔ _
  cases r.ofFields source fields <;> simp [merge]

/-- A record with one more field reads an array if the first part does, and the second part what is
left. -/
theorem ofItems_seq_eq_ok {r : Record (α → β)} {r' : Record α} :
    (r <*> r').ofItems source items = .ok (b, rest) ↔
      ∃ f between a, r.ofItems source items = .ok (f, between) ∧
        r'.ofItems source between = .ok (a, rest) ∧ f a = b := by
  change (r.ofItems source items >>= fun x => r'.ofItems source x.2 >>= fun y =>
    pure (x.1 y.1, y.2)) = _ ↔ _
  constructor
  · intro h
    obtain ⟨⟨f, between⟩, hr, h⟩ := bind_eq_ok.mp h
    obtain ⟨⟨a, rest'⟩, hr', h⟩ := bind_eq_ok.mp h
    obtain ⟨rfl, rfl⟩ := Prod.mk.inj (Except.ok.inj h)
    exact ⟨f, between, a, hr, hr', rfl⟩
  · rintro ⟨f, between, a, hr, hr', rfl⟩
    exact bind_eq_ok.mpr ⟨_, hr, bind_eq_ok.mpr ⟨_, hr', rfl⟩⟩

theorem ofItems_map_eq_ok {r : Record α} {f : α → β} :
    (f <$> r).ofItems source items = .ok (b, rest) ↔
      ∃ a, r.ofItems source items = .ok (a, rest) ∧ f a = b := by
  change (r.ofItems source items >>= fun x => pure (f x.1, x.2)) = _ ↔ _
  constructor
  · intro h
    obtain ⟨⟨a, rest'⟩, hr, h⟩ := bind_eq_ok.mp h
    obtain ⟨rfl, rfl⟩ := Prod.mk.inj (Except.ok.inj h)
    exact ⟨a, hr, rfl⟩
  · rintro ⟨a, hr, rfl⟩
    exact bind_eq_ok.mpr ⟨_, hr, rfl⟩

/-- A field reads the first item of an array, or else the value for its absence. -/
theorem ofItems_field_eq_ok {absent short : Option α} :
    (field key decode absent short).ofItems source items = .ok (x, rest) ↔
      (∃ j, items = j :: rest ∧ decode source j = .ok x) ∨
        items = [] ∧ rest = [] ∧ short = some x := by
  rw [field]
  dsimp only
  cases items with
  | nil =>
      cases short with
      | none => simp
      | some y =>
          constructor
          · intro h
            obtain ⟨rfl, rfl⟩ := Prod.mk.inj (Except.ok.inj h)
            exact .inr ⟨rfl, rfl, rfl⟩
          · rintro (⟨j, hj, -⟩ | ⟨-, rfl, heq⟩)
            · cases hj
            · rw [Option.some.inj heq]
  | cons j items =>
      rw [mapError_eq_ok, map_eq_ok]
      constructor
      · rintro ⟨y, hy, heq⟩
        obtain ⟨rfl, rfl⟩ := Prod.mk.inj heq
        exact .inl ⟨j, rfl, hy⟩
      · rintro (⟨j, hj, hx⟩ | ⟨hnil, -⟩)
        · obtain ⟨rfl, rfl⟩ := List.cons.inj hj
          exact ⟨x, hx, rfl⟩
        · cases hnil

/-- Of an array the record takes as many items as it has fields, or all that are left. -/
class Orderly (r : Record α) : Prop where
  rest_eq : ∀ {items rest x}, r.ofItems .direct items = .ok (x, rest) → rest = items.drop r.size

instance (key : String) (decode : Decoder α) (absent short : Option α) :
    Orderly (field key decode absent short) where
  rest_eq h := by
    rcases ofItems_field_eq_ok.mp h with ⟨j, rfl, -⟩ | ⟨rfl, rfl, -⟩
    · rfl
    · rfl

instance (key : String) (decode : Decoder α) : Orderly (required key decode) :=
  inferInstanceAs (Orderly (field ..))

instance (key : String) (decode : Decoder (Option α)) : Orderly (optional key decode) :=
  inferInstanceAs (Orderly (field ..))

instance (key : String) (decode : Decoder α) (default : α) :
    Orderly (defaulted key decode default) :=
  inferInstanceAs (Orderly (field ..))

theorem size_map (f : α → β) (r : Record α) : (f <$> r).size = r.size :=
  Nat.zero_add r.size

theorem size_seq (r : Record (α → β)) (r' : Record α) : (r <*> r').size = r.size + r'.size := rfl

instance (f : α → β) (r : Record α) [Orderly r] : Orderly (f <$> r) where
  rest_eq h := by
    obtain ⟨a, ha, -⟩ := ofItems_map_eq_ok.mp h
    rw [size_map]
    exact Orderly.rest_eq ha

instance (r : Record (α → β)) (r' : Record α) [Orderly r] [Orderly r'] : Orderly (r <*> r') where
  rest_eq h := by
    obtain ⟨f, between, a, hr, hr', -⟩ := ofItems_seq_eq_ok.mp h
    rw [size_seq, Orderly.rest_eq hr', Orderly.rest_eq hr, List.drop_drop]

/-- The record reads a value from the parameters at a place and behind it. -/
def At (r : Record α) (p : Json) (i : Nat) (x : α) : Prop :=
  match p with
  | .object fields => r.ofFields .direct fields = .ok x
  | .array items => r.ofItems .direct (items.drop i) = .ok (x, items.drop (i + r.size))
  | _ => False

theorem at_map {r : Record α} {f : α → β} : (f <$> r).At p i b ↔ ∃ a, r.At p i a ∧ f a = b := by
  cases p with
  | object fields => exact ofFields_map_eq_ok
  | array items =>
      rw [At, size_map]
      exact ofItems_map_eq_ok
  | _ => simp [At]

theorem at_seq {r : Record (α → β)} {r' : Record α} [Orderly r] :
    (r <*> r').At p i b ↔ ∃ f a, r.At p i f ∧ r'.At p (i + r.size) a ∧ f a = b := by
  cases p with
  | object fields => exact ofFields_seq_eq_ok
  | array items =>
      rw [At, size_seq, ← Nat.add_assoc]
      refine ofItems_seq_eq_ok.trans ⟨?_, ?_⟩
      · rintro ⟨f, between, a, hr, hr', heq⟩
        obtain rfl := Orderly.rest_eq hr
        rw [List.drop_drop] at hr hr'
        exact ⟨f, a, hr, hr', heq⟩
      · rintro ⟨f, a, hr, hr', heq⟩
        exact ⟨f, _, a, hr, hr', heq⟩
  | _ => simp [At]

/-- **A record is read** from an object by its keys, and from an array in order. -/
theorem decode_eq_ok_iff {r : Record α} [Orderly r] {name : String} :
    r.decode name .direct p = .ok x ↔ Within p r.size ∧ r.At p 0 x := by
  cases p with
  | object fields =>
      rw [Record.decode, ofObject, mapError_eq_ok]
      simp [Within, At]
  | array items =>
      rw [Record.decode, ofArray, Within, At, List.drop_zero, Nat.zero_add]
      cases hread : r.ofItems .direct items with
      | error cause => cases cause <;> simp
      | ok result =>
          obtain ⟨y, rest⟩ := result
          obtain rfl := Orderly.rest_eq hread
          have hlong : items.length ≤ r.size ↔ items.drop r.size = [] := List.drop_eq_nil_iff.symm
          rw [hlong]
          cases items.drop r.size <;> simp
  | _ => simp [Record.decode, Within]

/-- At the place of a field stands its value. -/
theorem drop_eq_cons {i : Nat} {j : Json} :
    items.drop i = j :: items.drop (i + 1) ↔ items[i]? = some j := by
  constructor
  · intro h
    rw [← List.head?_drop, h]
    rfl
  · intro h
    obtain ⟨hlt, hget⟩ := List.getElem?_eq_some_iff.mp h
    rw [List.drop_eq_getElem_cons hlt, hget]

theorem at_field {absent short : Option α} :
    (field key decode absent short).At p i x ↔
      (∃ j, param? p i key = some j ∧ decode .direct j = .ok x) ∨
        param? p i key = none ∧
          ((∃ fields, p = .object fields) ∧ absent = some x ∨
            (∃ items, p = .array items) ∧ short = some x) := by
  cases p with
  | object fields =>
      rw [At, ofFields_field_eq_ok, param?]
      simp
  | array items =>
      have hsize : (field key decode absent short).size = 1 := rfl
      rw [At, ofItems_field_eq_ok, param?, hsize]
      simp only [drop_eq_cons, List.drop_eq_nil_iff, List.getElem?_eq_none_iff, reduceCtorEq,
        exists_false, false_and, Json.array.injEq, exists_eq', true_and, false_or]
      refine or_congr Iff.rfl ⟨fun h => ⟨h.1, h.2.2⟩, fun h => ⟨h.1, by omega, h.2⟩⟩
  | _ => simp [At, param?]

/-- A field that has to be there is its parameter. -/
theorem at_required {write : α → Json} (h : ∀ {j x}, decode .direct j = .ok x ↔ j = write x) :
    (required key decode).At p i x ↔ param? p i key = some (write x) := by
  rw [required, at_field]
  simp [h]

/-- A field with a default is what its parameter stands for. -/
theorem at_defaulted {denotes : Json → α → Prop} {most : Nat} {default : α}
    (h : ∀ {j x}, decode .direct j = .ok x ↔ denotes j x) (hp : Within p most) :
    (defaulted key decode default).At p i x ↔ Stands (param? p i key) denotes default x := by
  have hshape : (∃ fields, p = .object fields) ∨ ∃ items, p = .array items := by
    cases p with
    | object fields => exact .inl ⟨fields, rfl⟩
    | array items => exact .inr ⟨items, rfl⟩
    | _ => exact hp.elim
  rw [defaulted, at_field, ← or_and_right]
  cases param? p i key with
  | none => simp [Stands, hshape, eq_comm]
  | some j => simp [Stands, h]

/-- So is it in an object by itself. -/
theorem ofFields_defaulted {denotes : Json → α → Prop} {default : α}
    (h : ∀ {j x}, decode source j = .ok x ↔ denotes j x) :
    (defaulted key decode default).ofFields source fields = .ok x ↔
      Stands (lookup key fields) denotes default x := by
  rw [defaulted, ofFields_field_eq_ok]
  cases lookup key fields with
  | none => simp [Stands, eq_comm]
  | some j => simp [Stands, h]

/-- A field that may be lacking or null is the parameter that may be so. -/
theorem at_optional {write : α → Json} {x : Option α}
    (h : ∀ {j x}, decode .direct j = .ok x ↔ j = write x) (hnull : ∀ x, write x ≠ .null) :
    (optional key (nullable decode)).At p i x ↔ Optionally p i key write x := by
  simp only [optional, at_field, nullable_eq_ok_iff write h hnull, OrNull]
  cases x with
  | none => simp [Optionally]
  | some x => simp [Optionally]

end Record

end CoEdit.Decode

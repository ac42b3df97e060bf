import CoEdit.Decode.Value

/-!
# Decoding Records

A record comes as an object, or as an array of its fields in order; a choice between records names
the case under the key `type`. Of several faults of an object, the wrong value under the smallest
key is reported, and a missing field only where no value is wrong.

The payload of a choice, and what remains of an object once its own fields are taken out, are read
as buffered values.

## Main definitions

* `Record`, a reader for the fields of a record, with `required`, `optional`, `defaulted`.
* `Record.decode`, `tagged`, `flattened`: decoders built from records.
-/

namespace CoEdit.Decode

open CoEdit.Json (lookup)

/-! ### Records -/

/-- What is wrong with the fields of an object. -/
inductive Fault
  /-- The value under a key does not fit. -/
  | wrong (key : String) (cause : Cause)
  /-- A required field is absent. -/
  | absent (key : String)

/-- The fault that is reported of two, the first one being that of earlier fields. -/
def Fault.first : Fault → Fault → Fault
  | .wrong key cause, .wrong other cause₂ =>
    if other < key then .wrong other cause₂ else .wrong key cause
  | .wrong key cause, .absent _ => .wrong key cause
  | .absent _, .wrong key cause => .wrong key cause
  | .absent key, .absent _ => .absent key

/-- The cause that a fault of the fields amounts to. -/
def Fault.cause : Fault → Cause
  | .wrong _ cause => cause
  | .absent key => .missing key

/-- A reader for the fields of a record. `ofFields` takes them from the entries of an object,
`ofItems` one by one from the front of an array, where `none` stands for the end of the array. -/
structure Record (α : Type) where
  size : Nat
  ofFields : Source → List (String × Json) → Except Fault α
  ofItems : Source → List Json → Except (Option Cause) (α × List Json)

namespace Record

/-- One field. `absent` is its value where an object lacks it, `short` where an array ends first. -/
def field {α : Type} (key : String) (decode : Decoder α) (absent short : Option α) :
    Record α where
  size := 1
  ofFields source fields :=
    match lookup key fields, absent with
    | some j, _ => (decode source j).mapError (Fault.wrong key)
    | none, some x => .ok x
    | none, none => .error (.absent key)
  ofItems source items :=
    match items, short with
    | j :: items, _ => ((decode source j).map (·, items)).mapError some
    | [], some x => .ok (x, [])
    | [], none => .error none

/-- A field that has to be there. -/
def required {α : Type} (key : String) (decode : Decoder α) : Record α :=
  field key decode none none

/-- A field that an object may lack, but not an array. -/
def optional {α : Type} (key : String) (decode : Decoder (Option α)) : Record (Option α) :=
  field key decode (some none) none

/-- A field with a default. -/
def defaulted {α : Type} (key : String) (decode : Decoder α) (default : α) : Record α :=
  field key decode (some default) (some default)

/-- Two faults of fields in one; a fault and a value are a fault. -/
def merge {α β γ : Type} (f : α → β → γ) :
    Except Fault α → Except Fault β → Except Fault γ
  | .ok a, .ok b => .ok (f a b)
  | .error e, .ok _ => .error e
  | .ok _, .error e => .error e
  | .error e, .error e₂ => .error (e.first e₂)

/-- The fields of the first record, then those of the second. -/
def both {α β γ : Type} (f : α → β → γ) (a : Record α) (b : Record β) : Record γ where
  size := a.size + b.size
  ofFields source fields := merge f (a.ofFields source fields) (b.ofFields source fields)
  ofItems source items := do
    let (x, items) ← a.ofItems source items
    let (y, items) ← b.ofItems source items
    pure (f x y, items)

/-- A record without fields. -/
def const {α : Type} (x : α) : Record α where
  size := 0
  ofFields _ _ := .ok x
  ofItems _ items := .ok (x, items)

instance : Applicative Record where
  pure := const
  seq f x := both (fun f x => f x) f (x ())

/-- Reads the fields from an array: `name` is the record's name in faults. -/
def ofArray {α : Type} (name : String) (r : Record α) (source : Source) (items : List Json) :
    Except Cause α :=
  match r.ofItems source items with
  | .ok (x, []) => .ok x
  | .ok (_, _ :: _) =>
    .error (if source = .direct then .tooLong items.length
      else .tooLongBuffered items.length r.size)
  | .error (some cause) => .error cause
  | .error none => .error (.tooShort items.length name r.size)

/-- Reads the fields from the entries of an object. -/
def ofObject {α : Type} (r : Record α) (source : Source) (fields : List (String × Json)) :
    Except Cause α :=
  (r.ofFields source fields).mapError Fault.cause

/-- A record by itself: an object, or an array of the fields in order. -/
def decode {α : Type} (name : String) (r : Record α) : Decoder α
  | source, .object fields => r.ofObject source fields
  | source, .array items => r.ofArray ("struct " ++ name) source items
  | _, other => .error (.wrongType other (.record name))

end Record

/-! ### Choices between records -/

/-- A case of a tagged choice: its tag, its name in faults, and its fields. -/
structure Case (α : Type) where
  tag : String
  label : String
  payload : Record α

/-- The key that names the case. -/
def tagKey : String := "type"

/-- The case that a tag names. Set aside, it may also be given by its number. -/
def caseOf {α : Type} (cases : List (Case α)) : Decoder (Case α)
  | _, .text tag =>
    match cases.find? (·.tag = tag) with
    | some c => .ok c
    | none => .error (.unknownCase tag (cases.map (·.tag)))
  | source, .whole n =>
    if source = .buffered ∧ 0 ≤ n then
      match cases[n.toNat]? with
      | some c => .ok c
      | none => .error (.unknownIndex n cases.length)
    else .error (.wrongType (.whole n) .tag)
  | _, other => .error (.wrongType other .tag)

/-- Reads the case named among the entries of an object, then its fields from the other entries. -/
def taggedFields {α : Type} (cases : List (Case α)) (source : Source)
    (fields : List (String × Json)) : Except Cause α :=
  match lookup tagKey fields with
  | none => .error (.missing tagKey)
  | some tag => do
    let c ← caseOf cases source tag
    c.payload.ofObject .buffered (fields.filter (·.1 ≠ tagKey))

/-- A choice between records: an object with the case under the tag key, or an array with the case
in front. -/
def tagged {α : Type} (name : String) (cases : List (Case α)) : Decoder α
  | source, .object fields => taggedFields cases source fields
  | _, .array [] => .error (.missing tagKey)
  | source, .array (tag :: items) => do
    let c ← caseOf cases source tag
    c.payload.ofArray ("struct variant " ++ name ++ "::" ++ c.label) .buffered items
  | _, other => .error (.wrongType other (.tagged name))

/-- A record with fields of its own and a second part spread among them, which is read from the
entries that are not its own. -/
def flattened {α β γ : Type} (name : String) (keys : List String) (own : Record α)
    (rest : List (String × Json) → Except Cause β) (make : α → β → γ) : Decoder γ
  | source, .object fields => do
    let a ← own.ofObject source fields
    let b ← rest (fields.filter (!keys.contains ·.1))
    pure (make a b)
  | _, other => .error (.wrongType other (.record name))

end CoEdit.Decode

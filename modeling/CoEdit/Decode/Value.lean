import CoEdit.Decode.Cause

/-!
# Decoding Single Values

Readers from JSON values to texts, truth values, numbers, timestamps, lists and plain choices. A
value is read either in place or *buffered*, from what was set aside while the rest of its object
was read; buffered values are read with slightly more tolerance.

## Main definitions

* `Source`, `Decoder`.
* `text`, `bool`, `count`, `serial`, `integer`, `instant`, `nullable`, `list`, `choice`.
-/

namespace CoEdit.Decode

open CoEdit.Time (Instant)

/-- Whether a value is read in place or from what was set aside. -/
inductive Source
  | direct
  | buffered
  deriving DecidableEq, Repr

/-- A reader from values. -/
abbrev Decoder (α : Type) := Source → Json → Except Cause α

/-- A string. -/
def text : Decoder String
  | _, .text s => .ok s
  | _, other => .error (.wrongType other .text)

/-- A truth value. -/
def bool : Decoder Bool
  | _, .boolean b => .ok b
  | _, other => .error (.wrongType other .boolean)

/-- A number that is not negative; `expected` names it in faults. -/
def unsigned (expected : Expected) : Decoder Nat
  | _, .whole n => if n < 0 then .error (.outOfRange n expected) else .ok n.toNat
  | _, other => .error (.wrongType other expected)

/-- A position, length or capacity. -/
def count : Decoder Nat := unsigned .count

/-- A sequence number or a number of seconds. -/
def serial : Decoder Nat := unsigned .serial

/-- A whole number that fits a signed word. -/
def integer : Decoder Int
  | _, .whole n => if Decimal.signedMax < n then .error (.outOfRange n .signed) else .ok n
  | _, other => .error (.wrongType other .signed)

/-- A timestamp. -/
def instant : Decoder Instant
  | _, .text s => (Time.Rfc3339.parse s).mapError .timestamp
  | _, other => .error (.wrongType other .timestamp)

/-- A value that may be null. -/
def nullable {α : Type} (decode : Decoder α) : Decoder (Option α)
  | _, .null => .ok none
  | source, j => (decode source j).map some

/-- Any value, null for its absence. -/
def anything : Decoder (Option Json)
  | _, .null => .ok none
  | _, j => .ok (some j)

/-- An array of values of one kind. -/
def list {α : Type} (decode : Decoder α) : Decoder (List α)
  | source, .array items => items.mapM (decode source)
  | _, other => .error (.wrongType other .sequence)

/-- The value of a case by its name. -/
def caseNamed {α : Type} (cases : List (String × α)) (name : String) : Except Cause α :=
  match cases.lookup name with
  | some x => .ok x
  | none => .error (.unknownCase name (cases.map (·.1)))

/-- The empty payload that a case without data may carry. -/
def emptyPayload : Decoder Unit
  | _, .null => .ok ()
  | .buffered, .object [] => .ok ()
  | _, other => .error (.wrongType other .unit)

/-- One of several named values: its name, or an object with the name as its only key. -/
def choice {α : Type} (cases : List (String × α)) : Decoder α
  | _, .text name => caseNamed cases name
  | source, .object [(name, payload)] => do
    let x ← caseNamed cases name
    emptyPayload source payload
    pure x
  | _, .object _ => .error .notSingle
  | _, other => .error (.wrongType other .choice)

end CoEdit.Decode

import CoEdit.Json.Printer
import CoEdit.Text.Quoted
import CoEdit.Time.Rfc3339

/-!
# Why a Value Does Not Fit

The causes for which a JSON value is refused by a decoder, and their wording.

## Main definitions

* `Expected`: what a decoder asks for.
* `Cause`, with `Cause.message`.
-/

namespace CoEdit.Decode

open CoEdit.Json (numberLayout)

/-- What a decoder asks for. -/
inductive Expected
  | text
  | boolean
  | count
  | serial
  | signed
  | timestamp
  | record (name : String)
  | choice
  | tag
  | tagged (name : String)
  | unit
  | sequence
  deriving DecidableEq, Repr

/-- The words for what a decoder asks for. -/
def Expected.describe : Expected → String
  | .text => "a string"
  | .boolean => "a boolean"
  | .count => "usize"
  | .serial => "u64"
  | .signed => "i64"
  | .timestamp => "an RFC 3339 formatted date and time string"
  | .record name => "struct " ++ name
  | .choice => "string or map"
  | .tag => "variant identifier"
  | .tagged name => "internally tagged enum " ++ name
  | .unit => "unit"
  | .sequence => "a sequence"

/-- A text between back quotes. -/
def ticked (s : String) : String := "`" ++ s ++ "`"

/-- The words for a value that was found in place of another. -/
def describe : Json → String
  | .null => "null"
  | .boolean b => "boolean " ++ ticked (if b then "true" else "false")
  | .whole n => "integer " ++ ticked (toString n)
  | .double bits => "floating point " ++ ticked (String.ofList (numberLayout.render bits))
  | .text s => "string " ++ Text.quote s
  | .array _ => "sequence"
  | .object _ => "map"

/-- A number of elements in words. -/
def elements (n : Nat) : String :=
  if n = 1 then "1 element" else toString n ++ " elements"

/-- Why a value does not fit. -/
inductive Cause
  /-- A value of another kind. -/
  | wrongType (found : Json) (expected : Expected)
  /-- A whole number outside the range. -/
  | outOfRange (found : Int) (expected : Expected)
  /-- A case given as an object without exactly one key. -/
  | notSingle
  /-- A case that the choice does not have. -/
  | unknownCase (found : String) (known : List String)
  /-- A case number that the choice does not have. -/
  | unknownIndex (found : Int) (known : Nat)
  /-- A required field that is absent. -/
  | missing (key : String)
  /-- An array with too few elements for a record of `size` fields. -/
  | tooShort (found : Nat) (record : String) (size : Nat)
  /-- An array with more elements than fields. -/
  | tooLong (found : Nat)
  /-- A buffered array with more elements than the `size` fields. -/
  | tooLongBuffered (found size : Nat)
  /-- A text that is no timestamp. -/
  | timestamp (fault : Time.Rfc3339.Fault)
  deriving Repr

/-- The alternatives of a choice in words. -/
def alternatives : List String → String
  | [a] => ticked a
  | [a, b] => ticked a ++ " or " ++ ticked b
  | names => "one of " ++ ", ".intercalate (names.map ticked)

/-- The wording of a cause. -/
def Cause.message : Cause → String
  | .wrongType found expected =>
    "invalid type: " ++ describe found ++ ", expected " ++ expected.describe
  | .outOfRange found expected =>
    "invalid value: integer " ++ ticked (toString found) ++ ", expected " ++ expected.describe
  | .notSingle => "invalid value: map, expected map with a single key"
  | .unknownCase found known =>
    "unknown variant " ++ ticked found ++ ", expected " ++ alternatives known
  | .unknownIndex found known =>
    "invalid value: integer " ++ ticked (toString found) ++ ", expected variant index 0 <= i < " ++
      toString known
  | .missing key => "missing field " ++ ticked key
  | .tooShort found record size =>
    "invalid length " ++ toString found ++ ", expected " ++ record ++ " with " ++ elements size
  | .tooLong found => "invalid length " ++ toString found ++ ", expected fewer elements in array"
  | .tooLongBuffered found size =>
    "invalid length " ++ toString found ++ ", expected " ++ elements size ++ " in sequence"
  | .timestamp fault => fault.message

end CoEdit.Decode

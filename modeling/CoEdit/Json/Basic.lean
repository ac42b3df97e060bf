/-!
# JSON Values

The values that requests, answers and recorded events are made of. Whole numbers are kept exactly;
any other number is a double, held as its bits. An object is a list of entries; its canonical form
has every key once, in ascending order of code points, at every depth.

## Main definitions

* `Json`, the values.
* `Json.field?`: the value that an object holds under a key.
* `Json.ofEntries`: an object from entries that may repeat keys; the last entry of a key counts.
* `Json.sorted`: the canonical form.
-/

namespace CoEdit

/-- A JSON value. `double` holds the bits of a finite IEEE 754 double. -/
inductive Json where
  | null
  | boolean (value : Bool)
  | whole (value : Int)
  | double (bits : UInt64)
  | text (value : String)
  | array (items : List Json)
  | object (fields : List (String × Json))
  deriving Repr, Inhabited

namespace Json

/-- A natural number as a value. -/
def nat (n : Nat) : Json :=
  .whole n

/-- A text, or null where there is none. -/
def optText : Option String → Json
  | none => .null
  | some s => .text s

/-- A natural number, or null where there is none. -/
def optNat : Option Nat → Json
  | none => .null
  | some n => .nat n

/-- The value under a key in a list of entries. -/
def lookup (key : String) (fields : List (String × Json)) : Option Json :=
  List.lookup key fields

/-- The value that an object holds under a key; other values hold none. -/
def field? (key : String) : Json → Option Json
  | .object fields => lookup key fields
  | _ => none

/-- Puts an entry into a list with ascending keys, in place of the entry of that key if any. -/
def putSorted (key : String) (value : Json) : List (String × Json) → List (String × Json)
  | [] => [(key, value)]
  | (k, v) :: rest =>
    if key < k then (key, value) :: (k, v) :: rest
    else if key = k then (key, value) :: rest
    else (k, v) :: putSorted key value rest

/-- The entries with ascending keys; of several entries of one key the last counts. -/
def sortEntries (entries : List (String × Json)) : List (String × Json) :=
  entries.foldl (fun fields entry => putSorted entry.1 entry.2 fields) []

/-- The object with the given entries. -/
def ofEntries (entries : List (String × Json)) : Json :=
  .object (sortEntries entries)

mutual

/-- The canonical form: every object in it has ascending keys. -/
def sorted : Json → Json
  | .array items => .array (sortedItems items)
  | .object fields => .object (sortEntries (sortedFields fields))
  | other => other

/-- The canonical forms of the items of an array. -/
def sortedItems : List Json → List Json
  | [] => []
  | item :: items => item.sorted :: sortedItems items

/-- The entries of an object with the canonical forms of their values. -/
def sortedFields : List (String × Json) → List (String × Json)
  | [] => []
  | (key, value) :: fields => (key, value.sorted) :: sortedFields fields

end

end Json

end CoEdit

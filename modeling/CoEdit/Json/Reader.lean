import CoEdit.Json.Number

/-!
# Reading JSON

A strict reader: the grammar of RFC 8259 without extensions. A value can be kept or merely skipped.
What is kept has a bounded depth of nesting, numbers within the range of doubles, and no lone
surrogates in its strings; of what is skipped only the grammar is checked.

## Main definitions

* `Json.value`: reads one value from the front of a text.
* `Json.parse`: reads a text that is one value.
* `Json.parseTop`: reads a text that is one value, keeping only some entries of the object it is.
-/

namespace CoEdit.Json

/-- How deeply arrays and objects may nest in a text that is kept. -/
def depthLimit : Nat := 127

/-- The four characters that count as white space between tokens. -/
def isSpace (c : Char) : Bool :=
  c = ' ' || c = '\n' || c = '\t' || c = '\r'

/-- Drops white space between tokens. -/
def skipSpace (cs : List Char) : List Char :=
  cs.dropWhile isSpace

/-- The value of a hexadecimal digit. -/
def hexValue? (c : Char) : Option Nat :=
  if '0' ≤ c ∧ c ≤ '9' then some (c.toNat - 48)
  else if 'a' ≤ c ∧ c ≤ 'f' then some (c.toNat - 87)
  else if 'A' ≤ c ∧ c ≤ 'F' then some (c.toNat - 55)
  else none

/-- The value of four hexadecimal digits. -/
def hex4? (a b c d : Char) : Option Nat := do
  let a ← hexValue? a
  let b ← hexValue? b
  let c ← hexValue? c
  let d ← hexValue? d
  pure (((a * 16 + b) * 16 + c) * 16 + d)

/-- The character that a one-letter escape stands for. -/
def shortEscape? (c : Char) : Option Char :=
  if c = '"' ∨ c = '\\' ∨ c = '/' then some c
  else if c = 'b' then some '\x08'
  else if c = 'f' then some '\x0c'
  else if c = 'n' then some '\n'
  else if c = 'r' then some '\r'
  else if c = 't' then some '\t'
  else none

/-- Reads a string behind its opening quote; `seen` holds the characters so far, the last one
first. A high surrogate has to be followed by a low one, unless the string is skipped. -/
def stringTail (keep : Bool) (seen : List Char) : List Char → Option (String × List Char)
  | '"' :: rest => some (String.ofList seen.reverse, rest)
  | '\\' :: 'u' :: a :: b :: c :: d :: rest =>
    match hex4? a b c d with
    | none => none
    | some unit =>
      if unit < 0xD800 ∨ 0xDFFF < unit ∨ ¬keep then
        stringTail keep (Char.ofNat unit :: seen) rest
      else if 0xDC00 ≤ unit then none
      else match rest with
        | '\\' :: 'u' :: a :: b :: c :: d :: rest =>
          match hex4? a b c d with
          | none => none
          | some low =>
            if 0xDC00 ≤ low ∧ low ≤ 0xDFFF then
              let code := 0x10000 + (unit - 0xD800) * 0x400 + (low - 0xDC00)
              stringTail keep (Char.ofNat code :: seen) rest
            else none
        | _ => none
  | '\\' :: c :: rest =>
    match shortEscape? c with
    | none => none
    | some c => stringTail keep (c :: seen) rest
  | c :: rest => if c.toNat < 0x20 then none else stringTail keep (c :: seen) rest
  | [] => none

/-- Reads the given characters at the front. -/
def word (w : List Char) (cs : List Char) : Option (List Char) :=
  if w.isPrefixOf cs then some (cs.drop w.length) else none

/-- Reads a number. -/
def number (keep : Bool) (cs : List Char) : Option (Json × List Char) :=
  match Numeral.read cs with
  | none => none
  | some (n, rest) => if keep then n.value?.map (·, rest) else some (.null, rest)

mutual

/-- Reads one value, with white space before it. `depth` is how many arrays and objects may still
be entered, and every step into a value or past one uses up `fuel`. -/
def value (keep : Bool) : Nat → Nat → List Char → Option (Json × List Char)
  | 0, _, _ => none
  | fuel + 1, depth, cs =>
    match skipSpace cs with
    | '"' :: rest => (stringTail keep [] rest).map fun (s, rest) => (.text s, rest)
    | '[' :: rest =>
      if keep ∧ depth = 0 then none
      else match skipSpace rest with
        | ']' :: rest => some (.array [], rest)
        | rest => (items keep fuel (depth - 1) [] rest).map fun (xs, rest) => (.array xs, rest)
    | '\x7b' :: rest =>
      if keep ∧ depth = 0 then none
      else match skipSpace rest with
        | '\x7d' :: rest => some (.object [], rest)
        | rest => (entries (fun _ => keep) keep fuel (depth - 1) [] rest).map
            fun (es, rest) => (ofEntries es, rest)
    | 'n' :: rest => (word ['u', 'l', 'l'] rest).map (.null, ·)
    | 't' :: rest => (word ['r', 'u', 'e'] rest).map (.boolean true, ·)
    | 'f' :: rest => (word ['a', 'l', 's', 'e'] rest).map (.boolean false, ·)
    | rest => number keep rest

/-- Reads the items of a nonempty array and its closing bracket; `seen` holds those read so far,
the last one first. -/
def items (keep : Bool) : Nat → Nat → List Json → List Char → Option (List Json × List Char)
  | 0, _, _, _ => none
  | fuel + 1, depth, seen, cs =>
    match value keep fuel depth cs with
    | none => none
    | some (item, rest) =>
      match skipSpace rest with
      | ',' :: rest => items keep fuel depth (item :: seen) rest
      | ']' :: rest => some ((item :: seen).reverse, rest)
      | _ => none

/-- Reads the entries of a nonempty object and its closing brace, in the order of the text.
`keepEntry` tells from the key which values to keep, and `keepKeys` whether the keys themselves are
checked like kept strings. -/
def entries (keepEntry : String → Bool) (keepKeys : Bool) :
    Nat → Nat → List (String × Json) → List Char → Option (List (String × Json) × List Char)
  | 0, _, _, _ => none
  | fuel + 1, depth, seen, cs =>
    match skipSpace cs with
    | '"' :: rest =>
      match stringTail keepKeys [] rest with
      | none => none
      | some (key, rest) =>
        match skipSpace rest with
        | ':' :: rest =>
          match value (keepEntry key) fuel depth rest with
          | none => none
          | some (item, rest) =>
            match skipSpace rest with
            | ',' :: rest => entries keepEntry keepKeys fuel depth ((key, item) :: seen) rest
            | '\x7d' :: rest => some (((key, item) :: seen).reverse, rest)
            | _ => none
        | _ => none
    | _ => none

end

/-- Enough fuel for a text: every step but the last passes a character. -/
def fuelFor (cs : List Char) : Nat :=
  2 * cs.length + 2

/-- What was read, provided that only white space follows. -/
def finish {α : Type} : Option (α × List Char) → Option α
  | some (x, rest) => if (skipSpace rest).isEmpty then some x else none
  | none => none

/-- The value that a text denotes, whatever its depth of nesting. -/
def parse (s : String) : Option Json :=
  let cs := s.toList
  finish (value true (fuelFor cs) cs.length cs)

/-- Reads a text that is one value, within the depth limit. Of an object the entries come back as
they stand, repeated keys included, and only the entries under the given keys are kept. -/
def parseTop (keys : List String) (s : String) : Option (Json ⊕ List (String × Json)) :=
  let cs := skipSpace s.toList
  match cs with
  | '\x7b' :: rest =>
    match skipSpace rest with
    | '\x7d' :: rest => (finish (some ([], rest))).map .inr
    | rest =>
      (finish (entries (keys.contains ·) true (fuelFor rest) (depthLimit - 1) [] rest)).map .inr
  | _ => (finish (value true (fuelFor cs) depthLimit cs)).map .inl

end CoEdit.Json

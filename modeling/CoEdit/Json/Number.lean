import CoEdit.Decimal.Word
import CoEdit.Json.Basic

/-!
# Reading JSON Numbers

A number is first read by its grammar, digit by digit, and then valued. Whole numbers that fit a
signed or an unsigned word of 64 bits are kept exactly. Any other number becomes a double: its
leading digits are gathered in a word, a digit that the word cannot take any more only counts as a
place, and the word is then scaled by a power of ten. A number beyond the largest double has no
value.

## Main definitions

* `Numeral`: sign, digits, decimals and exponent of a number, with `Numeral.read`.
* `Numeral.value?`: its value.
-/

namespace CoEdit.Json

open CoEdit.Decimal (wordMax signedMax)

/-- The parts of a number as it stands in the text. -/
structure Numeral where
  negative : Bool
  whole : List Char
  decimals : Option (List Char)
  exponent : Option (Bool × List Char)
  deriving DecidableEq, Repr

/-- A nonempty run of digits and what follows it. -/
def digitRun (cs : List Char) : Option (List Char × List Char) :=
  let run := cs.takeWhile Char.isDigit
  if run.isEmpty then none else some (run, cs.dropWhile Char.isDigit)

/-- The decimals, if a point follows. -/
def readDecimals : List Char → Option (Option (List Char) × List Char)
  | '.' :: rest => (digitRun rest).map fun (run, rest) => (some run, rest)
  | cs => some (none, cs)

/-- The exponent, if one follows; true stands for a minus sign. -/
def readExponent : List Char → Option (Option (Bool × List Char) × List Char)
  | c :: rest =>
    if c = 'e' ∨ c = 'E' then
      let (negative, rest) := match rest with
        | '-' :: rest => (true, rest)
        | '+' :: rest => (false, rest)
        | rest => (false, rest)
      (digitRun rest).map fun (run, rest) => (some (negative, run), rest)
    else some (none, c :: rest)
  | [] => some (none, [])

/-- Reads a number. A zero at the front stands alone. -/
def Numeral.read (cs : List Char) : Option (Numeral × List Char) := do
  let (negative, cs) := match cs with
    | '-' :: rest => (true, rest)
    | cs => (false, cs)
  let (whole, cs) ← digitRun cs
  if whole.head? = some '0' ∧ whole.length ≠ 1 then none
  else
    let (decimals, cs) ← readDecimals cs
    let (exponent, cs) ← readExponent cs
    some (⟨negative, whole, decimals, exponent⟩, cs)

/-- A word that gathers digits, and the count of digits that it could not take. -/
structure Significand where
  word : Nat
  dropped : Nat

/-- Takes one more digit of the whole part: once a digit is dropped, so are all behind it. -/
def Significand.takeWhole (s : Significand) (c : Char) : Significand :=
  let next := s.word * 10 + (c.toNat - 48)
  if s.dropped = 0 ∧ next ≤ wordMax then ⟨next, 0⟩ else ⟨s.word, s.dropped + 1⟩

/-- Takes decimals while the word has room, and counts those taken. -/
def takeDecimals (word taken : Nat) : List Char → Nat × Nat
  | [] => (word, taken)
  | c :: cs =>
    let next := word * 10 + (c.toNat - 48)
    if next ≤ wordMax then takeDecimals next (taken + 1) cs else (word, taken)

/-- The double nearest to a power of ten up to 308. -/
def powerOfTen (n : Nat) : Float :=
  Float.ofScientific 1 false n

/-- Divides by a power of ten in steps of at most 308 places; `fuel` steps. -/
def scaleDown : Nat → Float → Nat → Float
  | 0, f, _ => f
  | fuel + 1, f, places =>
    if places ≤ 308 then f / powerOfTen places
    else if f == 0 then f
    else scaleDown fuel (f / powerOfTen 308) (places - 308)

/-- A word times a power of ten; a value beyond the doubles is none. Three divisions by the largest
power bring any word to zero. -/
def scale (word : Nat) (places : Int) : Option Float :=
  let f := word.toUInt64.toFloat
  if places < 0 then some (scaleDown 4 f places.natAbs)
  else if places ≤ 308 then
    let g := f * powerOfTen places.natAbs
    if g.isInf then none else some g
  else if word = 0 then some f
  else none

/-- The largest exponent that is looked at digit by digit. -/
def exponentMax : Nat := 2147483647

/-- A double with the sign put on. -/
def signed (negative : Bool) (f : Float) : Json :=
  .double (if negative then (-f).toBits else f.toBits)

/-- The value of a number, unless it is beyond the doubles. -/
def Numeral.value? (n : Numeral) : Option Json :=
  let head := n.whole.foldl Significand.takeWhole ⟨0, 0⟩
  match n.decimals, n.exponent with
  | none, none =>
    if head.dropped ≠ 0 then (scale head.word head.dropped).map (signed n.negative)
    else if ¬n.negative then some (.whole head.word)
    else if head.word ≠ 0 ∧ head.word ≤ signedMax + 1 then some (.whole (-head.word))
    else (scale head.word 0).map (signed true)
  | decimals, exponent =>
    let (word, taken) := takeDecimals head.word 0 (decimals.getD [])
    let places : Int := head.dropped - taken
    match exponent with
    | none => (scale word places).map (signed n.negative)
    | some (down, digits) =>
      let e := digits.foldl (fun e c => e * 10 + (c.toNat - 48)) 0
      if exponentMax < e then
        if word ≠ 0 ∧ ¬down then none else some (signed n.negative 0)
      else (scale word (places + if down then -(e : Int) else e)).map (signed n.negative)

end CoEdit.Json

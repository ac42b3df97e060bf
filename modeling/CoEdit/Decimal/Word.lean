/-!
# Decimal Words

Whole numbers that fit a 64-bit word, and how a setting spells one. Document positions, lengths,
capacities and sequence numbers are words.

## Main definitions

* `wordMax`, `signedMax`: the largest word, without and with a sign.
* `saturatingAdd`: addition that stops there.
* `word?`: the word that a text spells in decimal.
-/

namespace CoEdit.Decimal

/-- The largest value of a 64-bit word. -/
def wordMax : Nat := 18446744073709551615

/-- The largest value of a signed 64-bit word. -/
def signedMax : Nat := 9223372036854775807

/-- The sum of two words, or the largest word if the sum is beyond it. -/
def saturatingAdd (a b : Nat) : Nat :=
  min (a + b) wordMax

/-- The value of an ASCII decimal digit. -/
def digit? (c : Char) : Option Nat :=
  if '0' ≤ c && c ≤ '9' then some (c.toNat - '0'.toNat) else none

/-- The number that a nonempty list of decimal digits denotes. -/
def natural? (cs : List Char) : Option Nat :=
  if cs.isEmpty then none
  else cs.foldlM (fun n c => (digit? c).map (n * 10 + ·)) 0

/-- The word that a text spells: decimal digits, at most one plus sign before them, and no value
beyond the largest word. -/
def word? (s : String) : Option Nat :=
  let digits := match s.toList with
    | '+' :: rest => rest
    | cs => cs
  (natural? digits).filter (· ≤ wordMax)

example : word? "+0012" = some 12 := by decide +kernel
example : word? "18446744073709551615" = some wordMax := by decide +kernel
example : word? "18446744073709551616" = none ∧ word? "-0" = none ∧ word? "+" = none := by
  decide +kernel

end CoEdit.Decimal

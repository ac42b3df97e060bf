import CoEdit.Decimal.Word
import CoEdit.Proofs.Decimal.Digits

/-!
# How Words Are Spelled

A word is spelled by its decimal digits, zeros in front allowed, with at most one plus sign before
them. Nothing else spells a word, and a number beyond the largest word is none.

## Main definitions

* `Spells`: a text spells a number.

## Main results

* `Spells.unique`: a text spells one number at most.
* `word?_eq_some_iff`: the words that are read off a text are those that it spells.
-/

namespace CoEdit.Decimal

variable {c : Char} {cs digits : List Char} {s : String} {n m : Nat}

/-- The text `s` spells `n`: decimal digits that denote it, with at most one plus sign before
them. -/
def Spells (s : String) (n : Nat) : Prop :=
  ∃ digits : List Char, (s.toList = digits ∨ s.toList = '+' :: digits) ∧ digits ≠ [] ∧
    (∀ c ∈ digits, c.isDigit = true) ∧ Nat.ofDigitChars 10 digits 0 = n

/-! ### The digits -/

theorem digit?_eq (c : Char) :
    digit? c = if c.isDigit = true then some (c.toNat - '0'.toNat) else none := by
  rw [digit?, Char.isDigit]
  rfl

/-- Digits are read from the left, each of them ten times the number so far and its own value. -/
theorem foldlM_digit? : cs.foldlM (fun n c => (digit? c).map (n * 10 + ·)) n = some m ↔
    (∀ c ∈ cs, c.isDigit = true) ∧ Nat.ofDigitChars 10 cs n = m := by
  induction cs generalizing n with
  | nil => simp
  | cons c cs ih =>
      rw [List.foldlM_cons, digit?_eq, List.forall_mem_cons, Nat.ofDigitChars_cons]
      by_cases hc : c.isDigit = true
      · rw [if_pos hc, Option.map_some, Nat.mul_comm]
        simp only [hc, true_and]
        exact ih
      · rw [if_neg hc]
        simp [hc]

theorem natural?_eq_some_iff : natural? cs = some n ↔
    cs ≠ [] ∧ (∀ c ∈ cs, c.isDigit = true) ∧ Nat.ofDigitChars 10 cs 0 = n := by
  rw [natural?]
  by_cases hcs : cs = []
  · subst hcs
    simp
  · rw [if_neg (by simpa using hcs), foldlM_digit?]
    simp only [hcs, ne_eq, not_false_eq_true, true_and]

/-! ### The sign -/

/-- What is left of a text without a plus sign at its front. -/
def unsigned : List Char → List Char
  | '+' :: rest => rest
  | cs => cs

theorem word?_eq (s : String) :
    word? s = (natural? (unsigned s.toList)).filter (· ≤ wordMax) := rfl

/-- A text is its unsigned rest, or has a plus sign before it. -/
theorem eq_unsigned (cs : List Char) : cs = unsigned cs ∨ cs = '+' :: unsigned cs := by
  rw [unsigned.eq_def]
  split
  · exact .inr rfl
  · exact .inl rfl

/-- No digit is lost with the sign. -/
theorem unsigned_eq (hcs : cs = digits ∨ cs = '+' :: digits)
    (hdigits : ∀ c ∈ digits, c.isDigit = true) : unsigned cs = digits := by
  rcases hcs with rfl | rfl
  · rw [unsigned.eq_def]
    split
    · exact absurd (hdigits '+' List.mem_cons_self) (by decide)
    · rfl
  · rfl

/-- A text spells one number at most. -/
theorem Spells.unique (hn : Spells s n) (hm : Spells s m) : n = m := by
  obtain ⟨digits, hs, -, hdigits, rfl⟩ := hn
  obtain ⟨digits', hs', -, hdigits', rfl⟩ := hm
  obtain rfl : digits = digits' :=
    (unsigned_eq hs hdigits).symm.trans (unsigned_eq hs' hdigits')
  rfl

/-- **The words that are read off a text are those that it spells.** -/
theorem word?_eq_some_iff : word? s = some n ↔ Spells s n ∧ n ≤ wordMax := by
  rw [word?_eq, Option.filter_eq_some_iff, decide_eq_true_eq, and_congr_left_iff,
    natural?_eq_some_iff]
  intro _
  constructor
  · rintro ⟨hne, hdigits, hn⟩
    exact ⟨_, eq_unsigned _, hne, hdigits, hn⟩
  · rintro ⟨digits, hs, hne, hdigits, hn⟩
    rw [unsigned_eq hs hdigits]
    exact ⟨hne, hdigits, hn⟩

end CoEdit.Decimal

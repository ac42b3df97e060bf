import CoEdit.Proofs.Text.Blank
import CoEdit.Time.Rfc3339
import Mathlib.Algebra.Group.Nat.Defs
import Mathlib.Tactic.Common

/-!
# Runs of Digits

Numbers are read as the longest run of digits at the front of a text. A number that was written in
decimal is read back whole if no further digit follows.

## Main definitions

* `EndsRun`: a text that does not go on with a digit.
* `digitsValue`: the number that digits denote.

## Main results

* `takeWhile_run`, `dropWhile_run`: the run of digits at the front, and what follows it.
* `digitsValue_toDigits`, `digitsValue_padded`: the decimal digits of a number denote it, also with
  zeros in front.
* `head_toDigits`: only zero begins with the digit zero.
-/

namespace CoEdit.Decimal

variable {run rest : List Char} {width n : Nat}

/-- The text is at its end or goes on with something else than a digit. -/
def EndsRun (rest : List Char) : Prop :=
  ∀ c ∈ rest.head?, c.isDigit = false

theorem endsRun_cons {c : Char} (h : c.isDigit = false) (rest : List Char) : EndsRun (c :: rest) :=
  fun _ hc => Option.some.inj hc ▸ h

theorem toNat_of_isDigit {c : Char} (h : c.isDigit = true) : 48 ≤ c.toNat ∧ c.toNat ≤ 57 := by
  simpa [Char.isDigit, UInt32.le_iff_toNat_le] using h

theorem takeWhile_run (hrun : ∀ c ∈ run, c.isDigit = true) (hrest : EndsRun rest) :
    (run ++ rest).takeWhile Char.isDigit = run := by
  rw [List.takeWhile_append_of_pos hrun]
  cases rest with
  | nil => exact List.append_nil run
  | cons c rest =>
      have hc : ¬c.isDigit = true := Bool.eq_false_iff.mp (hrest c rfl)
      rw [List.takeWhile_cons_of_neg hc, List.append_nil]

theorem dropWhile_run (hrun : ∀ c ∈ run, c.isDigit = true) (hrest : EndsRun rest) :
    (run ++ rest).dropWhile Char.isDigit = rest :=
  Text.dropWhile_front hrun hrest

/-! ### What digits denote -/

/-- The number that digits denote, as readers compute it. -/
def digitsValue (digits : List Char) : Nat :=
  digits.foldl (fun n c => n * 10 + (c.toNat - 48)) 0

theorem digitsValue_eq (digits : List Char) :
    digitsValue digits = Nat.ofDigitChars 10 digits 0 := by
  rw [digitsValue, Nat.ofDigitChars_eq_foldl]
  refine congrArg (fun f => digits.foldl f 0) (funext fun n => funext fun c => ?_)
  rw [Nat.mul_comm]
  rfl

theorem isDigit_of_mem_toDigits {c : Char} (h : c ∈ Nat.toDigits 10 n) : c.isDigit = true :=
  Nat.isDigit_of_mem_toDigits (by decide) (by decide) h

/-- The decimal digits of a number denote it. -/
theorem digitsValue_toDigits (n : Nat) : digitsValue (Nat.toDigits 10 n) = n := by
  rw [digitsValue_eq, Nat.ofDigitChars_ten_toDigits]

/-- A number of more than one digit does not begin with a zero. -/
theorem head_toDigits (n : Nat) :
    (Nat.toDigits 10 n).head? ≠ some '0' ∨ (Nat.toDigits 10 n).length = 1 := by
  induction n using Nat.strongRecOn with
  | _ n ih =>
      by_cases hsmall : n < 10
      · right
        rw [Nat.toDigits_of_lt_base hsmall]
        rfl
      · left
        rw [Nat.toDigits_of_base_le (by decide) (Nat.le_of_not_lt hsmall), List.head?_append]
        have hsome : ∃ c, (Nat.toDigits 10 (n / 10)).head? = some c := by
          cases hdigits : Nat.toDigits 10 (n / 10) with
          | nil => exact absurd hdigits Nat.toDigits_ne_nil
          | cons c cs => exact ⟨c, rfl⟩
        obtain ⟨c, hc⟩ := hsome
        rw [hc, Option.some_or]
        rcases ih (n / 10) (by omega) with hhead | hone
        · exact hc ▸ hhead
        · -- One digit is left, which is not zero.
          have hlt : n / 10 < 10 ^ 1 :=
            (Nat.length_toDigits_le_iff (by decide) (by decide)).mp (Nat.le_of_eq hone)
          rw [Nat.toDigits_of_lt_base (by omega)] at hc
          obtain rfl : (n / 10).digitChar = c := Option.some.inj hc
          intro hzero
          have := Nat.digitChar_eq_zero.mp (Option.some.inj hzero)
          omega

end CoEdit.Decimal

namespace CoEdit.Time.Rfc3339

open CoEdit.Decimal

variable {c : Char} {width n : Nat}

/-! ### Numbers with zeros in front -/

theorem isDigit_of_mem_padded (h : c ∈ padded width n) : c.isDigit = true := by
  rcases List.mem_append.mp h with hzero | hdigit
  · rw [List.eq_of_mem_replicate hzero]
    rfl
  · exact isDigit_of_mem_toDigits hdigit

theorem digitsValue_padded (width n : Nat) : digitsValue (padded width n) = n := by
  rw [digitsValue_eq, padded, Nat.ofDigitChars_append, Nat.ofDigitChars_replicate_zero,
    Nat.mul_zero, Nat.ofDigitChars_ten_toDigits]

/-- A number that fits the width takes up the width. -/
theorem length_padded (hwidth : 0 < width) (h : n < 10 ^ width) :
    (padded width n).length = width := by
  have hle : (Nat.toDigits 10 n).length ≤ width :=
    (Nat.length_toDigits_le_iff (by decide) hwidth).mpr h
  rw [padded, List.length_append, List.length_replicate]
  omega

end CoEdit.Time.Rfc3339

import CoEdit.Time.Instant
import Mathlib.Order.Lattice

/-!
# The Order of Instants

Instants are linearly ordered, and `later` is the greater of two.

## Main results

* `Instant.instLinearOrder`: the order, on the relations of `CoEdit.Time.Instant`.
* `Instant.later_eq_max`: the later instant is the greater one.
-/

namespace CoEdit.Time.Instant

/-- Instants are ordered by second, and within a second by nanosecond. -/
instance instLinearOrder : LinearOrder Instant where
  le_refl := Instant.le_refl
  le_trans _ _ _ := Instant.le_trans
  lt_iff_le_not_ge a b := by rw [lt_def, le_def, le_def]; omega
  le_antisymm := by
    rintro ⟨sa, na⟩ ⟨sb, nb⟩ hab hba
    rw [le_def] at hab hba
    rw [Instant.mk.injEq]
    simp only at hab hba
    omega
  le_total a b := by rw [le_def, le_def]; omega
  toDecidableLE := inferInstance

/-- The later of two instants is the greater one. -/
theorem later_eq_max (a b : Instant) : a.later b = max a b := by
  rw [later]
  split
  · next h => exact (max_eq_right (le_of_lt h)).symm
  · next h => exact (max_eq_left (not_lt.mp h)).symm

end CoEdit.Time.Instant

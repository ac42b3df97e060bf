import CoEdit.Proofs.Time.Order

/-!
# Elapsed Time

How the time between two instants goes with their order. Apart from leap seconds the one tells of
the other. A leap second at the end of a day is counted as time that has passed since the beginning
of the next day, so that less than a second of elapsed time says nothing there.

## Main definitions

* `Instant.InLeapSecond`, `Instant.Fits`: what the nanoseconds of an instant say.
* `Instant.OnClock`: an instant at which a leap second can only end a minute.
* `Instant.LeapsInto`: a leap second at the end of a day, and the beginning of the next day.

## Main results

* `le_of_since_nonneg`, `le_of_second_le_since`: what some time has passed since is not later.
* `since_later_lt`: a mark that has just been pushed forward is not old.
* `since_antitone`: the later of two instants is the one since which less time has passed.
* `since_neg_iff`: the one case in which less than no time has passed since what is not later.
-/

namespace CoEdit.Time.Instant

variable {t u v : Instant}

/-- Whether an instant falls into a leap second. -/
def InLeapSecond (t : Instant) : Prop :=
  nanosPerSecond ≤ t.nanos

instance : Decidable t.InLeapSecond :=
  inferInstanceAs (Decidable (_ ≤ _))

/-- Whether the nanoseconds of an instant fit into its second, which may be a leap second. -/
def Fits (t : Instant) : Prop :=
  t.nanos < 2 * nanosPerSecond

instance : Decidable t.Fits :=
  inferInstanceAs (Decidable (_ < _))

/-- Whether an instant is a point on the clock. Only the last second of a minute can be a leap
second. -/
def OnClock (t : Instant) : Prop :=
  t.nanos < nanosPerSecond ∨ (t.nanos < 2 * nanosPerSecond ∧ t.seconds % 60 = 59)

instance : Decidable t.OnClock :=
  inferInstanceAs (Decidable (_ ∨ (_ ∧ _)))

/-- The first instant is in a leap second at the end of a day. The second one is in the first second
of the next day, and not as far into it as the first one is into the leap second. -/
def LeapsInto (u t : Instant) : Prop :=
  u.InLeapSecond ∧ t.seconds = u.seconds + 1 ∧ t.secondOfDay = 0 ∧
    t.nanos + nanosPerSecond < u.nanos

/-- No time has passed since now. -/
theorem since_self (t : Instant) : t.since t = 0 := by
  simp [since]

/-- Between instants of one second, nanoseconds count. -/
theorem since_of_seconds_eq (h : t.seconds = u.seconds) :
    t.since u = (t.nanos : Int) - u.nanos := by
  have hday : t.secondOfDay = u.secondOfDay := by rw [secondOfDay, secondOfDay, h]
  simp [since, h, hday]

/-- The seconds from an instant count, and one more only if the instant is in a leap second. -/
theorem since_le (t u : Instant) :
    t.since u ≤ (t.seconds - u.seconds + if u.InLeapSecond then 1 else 0) * nanosPerSecond +
      ((t.nanos : Int) - u.nanos) := by
  have hleap : (if u.secondOfDay < t.secondOfDay ∧ nanosPerSecond ≤ u.nanos then 1
      else if t.secondOfDay < u.secondOfDay ∧ nanosPerSecond ≤ t.nanos then -1 else 0 : Int) ≤
      if u.InLeapSecond then 1 else 0 := by
    by_cases hu : u.InLeapSecond
    · rw [if_pos hu]
      split
      · exact le_refl _
      · split <;> decide
    · rw [if_neg hu, if_neg fun h => hu h.2]
      split <;> decide
  exact Int.add_le_add_right (Int.mul_le_mul_of_nonneg_right (Int.add_le_add_left hleap _)
    (Int.natCast_nonneg _)) _

/-- Apart from leap seconds, the time on the clock is the time elapsed. -/
theorem since_eq (ht : ¬t.InLeapSecond) (hu : ¬u.InLeapSecond) :
    t.since u = t.toNanos - u.toNanos := by
  rw [InLeapSecond] at ht hu
  rw [since, if_neg fun h => hu h.2, if_neg fun h => ht h.2, toNanos, toNanos]
  simp only [nanosPerSecond]
  omega

/-- Outside of leap seconds, what time has passed since is not later. -/
theorem le_of_since_nonneg (ht : ¬t.InLeapSecond) (h : 0 ≤ t.since u) : u ≤ t := by
  rw [← not_lt]
  intro hlt
  rcases lt_def.mp hlt with hbefore | ⟨hsame, hnanos⟩
  · have hle := since_le t u
    by_cases hu : u.InLeapSecond
    · rw [if_pos hu] at hle
      simp only [InLeapSecond, nanosPerSecond] at ht hu hle
      omega
    · rw [if_neg hu] at hle
      simp only [InLeapSecond, nanosPerSecond] at ht hle
      omega
  · rw [since_of_seconds_eq hsame] at h
    omega

/-- In a leap second, too, what a whole second has passed since is not later. -/
theorem le_of_second_le_since (ht : t.Fits) (h : (nanosPerSecond : Int) ≤ t.since u) :
    u ≤ t := by
  rw [← not_lt]
  intro hlt
  simp only [Fits, nanosPerSecond] at ht h
  rcases lt_def.mp hlt with hbefore | ⟨hsame, hnanos⟩
  · have hle := since_le t u
    by_cases hu : u.InLeapSecond
    · rw [if_pos hu] at hle
      simp only [InLeapSecond, nanosPerSecond] at hu hle
      omega
    · rw [if_neg hu] at hle
      simp only [nanosPerSecond] at hle
      omega
  · rw [since_of_seconds_eq hsame] at h
    omega

/-- A mark that has just been pushed forward to now is not a second old. -/
theorem since_later_lt (ht : t.Fits) (u : Instant) : t.since (u.later t) < nanosPerSecond := by
  rw [later_eq_max]
  rcases le_total u t with hle | hge
  · rw [max_eq_right hle, since_self]
    decide
  · rw [max_eq_left hge, ← not_le]
    intro hpassed
    have hsame : u = t := le_antisymm (le_of_second_le_since ht hpassed) hge
    rw [hsame, since_self] at hpassed
    exact absurd hpassed (by decide)

/-- Apart from leap seconds, less time has passed since what is later. -/
theorem since_antitone (ht : ¬t.InLeapSecond) (hu : ¬u.InLeapSecond) (hv : ¬v.InLeapSecond)
    (huv : u ≤ v) : t.since v ≤ t.since u := by
  rw [since_eq ht hu, since_eq ht hv, toNanos, toNanos, toNanos]
  rw [InLeapSecond] at hu hv
  rw [le_def] at huv
  simp only [nanosPerSecond] at hu hv ⊢
  omega

/-- **Less than no time** has passed since what is not later only where a day ends with a leap
second. It counts between two times of day, the earlier one before the later one, and so not from
the end of a day to the beginning of the next one. -/
theorem since_neg_iff (hu : u.OnClock) (ht : t.OnClock) (h : u ≤ t) :
    t.since u < 0 ↔ u.LeapsInto t := by
  rw [le_def] at h
  rw [LeapsInto]
  by_cases hcounted : u.secondOfDay < t.secondOfDay ∧ nanosPerSecond ≤ u.nanos
  · rw [since, if_pos hcounted]
    simp only [OnClock, InLeapSecond, secondOfDay, nanosPerSecond, secondsPerDay] at *
    omega
  · rw [since, if_neg hcounted]
    by_cases htaken : t.secondOfDay < u.secondOfDay ∧ nanosPerSecond ≤ t.nanos
    · rw [if_pos htaken]
      simp only [OnClock, InLeapSecond, secondOfDay, nanosPerSecond, secondsPerDay] at *
      omega
    · rw [if_neg htaken]
      simp only [OnClock, InLeapSecond, secondOfDay, nanosPerSecond, secondsPerDay] at *
      omega

end CoEdit.Time.Instant

/-!
# Instants

Points on the time line, to the nanosecond, in universal time. An instant counts whole seconds
since the start of 1970 and nanoseconds into the second. A leap second is written as a second that
holds two billion nanoseconds, so that it sorts after the second it extends.

## Main definitions

* `Instant`, ordered by seconds, then nanoseconds.
* `Instant.later`: the later of two instants; clocks that are only pushed forward use it.
* `Instant.since`: the nanoseconds from one instant to another.
-/

namespace CoEdit.Time

/-- A point in time: seconds since 1970-01-01T00:00:00Z and nanoseconds into that second. -/
structure Instant where
  seconds : Int
  nanos : Nat
  deriving DecidableEq, Repr, Inhabited

namespace Instant

/-- Nanoseconds in a second. -/
def nanosPerSecond : Nat := 1000000000

/-- Seconds in a day. -/
def secondsPerDay : Nat := 86400

/-- The order of time: by second, and within a second by nanosecond. -/
instance : LT Instant where
  lt a b := a.seconds < b.seconds ∨ (a.seconds = b.seconds ∧ a.nanos < b.nanos)

/-- The order of time, equality included. -/
instance : LE Instant where
  le a b := a.seconds < b.seconds ∨ (a.seconds = b.seconds ∧ a.nanos ≤ b.nanos)

instance (a b : Instant) : Decidable (a < b) :=
  inferInstanceAs (Decidable (_ ∨ (_ ∧ _)))

instance (a b : Instant) : Decidable (a ≤ b) :=
  inferInstanceAs (Decidable (_ ∨ (_ ∧ _)))

theorem lt_def {a b : Instant} :
    a < b ↔ a.seconds < b.seconds ∨ (a.seconds = b.seconds ∧ a.nanos < b.nanos) := Iff.rfl

theorem le_def {a b : Instant} :
    a ≤ b ↔ a.seconds < b.seconds ∨ (a.seconds = b.seconds ∧ a.nanos ≤ b.nanos) := Iff.rfl

protected theorem le_refl (a : Instant) : a ≤ a := by
  rw [le_def]; omega

protected theorem le_trans {a b c : Instant} (h₁ : a ≤ b) (h₂ : b ≤ c) : a ≤ c := by
  rw [le_def] at *; omega

protected theorem not_le {a b : Instant} : ¬a ≤ b ↔ b < a := by
  rw [le_def, lt_def]; omega

/-- The later of two instants. -/
def later (a b : Instant) : Instant :=
  if a < b then b else a

theorem le_later_left (a b : Instant) : a ≤ later a b := by
  unfold later
  split
  · next h => rw [le_def]; rw [lt_def] at h; omega
  · exact Instant.le_refl a

theorem le_later_right (a b : Instant) : b ≤ later a b := by
  unfold later
  split
  · exact Instant.le_refl b
  · next h => rw [le_def]; rw [lt_def] at h; omega

/-- The instant that many nanoseconds after the start of 1970. -/
def ofNanos (n : Int) : Instant :=
  ⟨n / nanosPerSecond, (n % nanosPerSecond).toNat⟩

/-- The instant that many milliseconds after the start of 1970. -/
def ofMillis (ms : Int) : Instant :=
  ofNanos (ms * 1000000)

/-- Nanoseconds since the start of 1970. -/
def toNanos (t : Instant) : Int :=
  t.seconds * nanosPerSecond + t.nanos

/-- Whole milliseconds since the start of 1970, rounded down. -/
def toMillis (t : Instant) : Int :=
  t.seconds * 1000 + t.nanos / 1000000

/-- The instant `n` nanoseconds later. -/
def plus (t : Instant) (n : Int) : Instant :=
  ofNanos (t.toNanos + n)

/-- The second of the day that an instant falls into. -/
def secondOfDay (t : Instant) : Int :=
  t.seconds % secondsPerDay

/-- The nanoseconds from `start` to `t`. A leap second that lies strictly between the two times of
day counts. -/
def since (t start : Instant) : Int :=
  let leap : Int :=
    if start.secondOfDay < t.secondOfDay ∧ nanosPerSecond ≤ start.nanos then 1
    else if t.secondOfDay < start.secondOfDay ∧ nanosPerSecond ≤ t.nanos then -1
    else 0
  (t.seconds - start.seconds + leap) * nanosPerSecond + ((t.nanos : Int) - start.nanos)

end Instant

end CoEdit.Time

import CoEdit.Time.Instant

/-!
# Clocks

While a command is carried out, the clock is read again and again: when a session is changed, when a
fact is recorded, when a notice is sent. Time may pass in between. A command deals with a session
once, so that the readings can be told apart by the session and by what they are for.

## Main definitions

* `Clock`: what the clock shows in the course of a command.
* `Clock.still`: a clock that stands still.
-/

namespace CoEdit

open CoEdit.Time (Instant)

/-- What the clock shows in the course of a command, for each session that is dealt with. -/
structure Clock where
  /-- When the session is changed. -/
  acting : String → Instant
  /-- When facts are recorded of it, by their order. -/
  recording : String → Nat → Instant
  /-- When notices of it are sent, by their order. -/
  announcing : String → Nat → Instant

namespace Clock

/-- A clock that shows the same time throughout. -/
def still (t : Instant) : Clock := ⟨fun _ => t, fun _ _ => t, fun _ _ => t⟩

instance : Coe Instant Clock := ⟨still⟩

end Clock

end CoEdit

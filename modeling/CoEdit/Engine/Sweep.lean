import CoEdit.Engine.Basic

/-!
# Sweeping

A sweep ends the sessions that have waited too long for company and removes those that ended long
enough ago. Sweeps are repeated at a fixed interval; a sweep that comes late delays the following
ones.

## Main definitions

* `Engine.sweep`, with `SweepReport`.
* `SweepTimer`: when the next sweep is due.
* `Engine.tick`: a sweep if one is due.
-/

namespace CoEdit

open CoEdit.Time (Instant)

/-- What a sweep did, session by session in order of creation. -/
structure SweepReport where
  idleEnded : List String
  removed : List String
  deriving DecidableEq, Repr

/-- Whether a sweep did nothing. -/
def SweepReport.isEmpty (r : SweepReport) : Bool :=
  r.idleEnded.isEmpty && r.removed.isEmpty

namespace Engine

/-- Seconds in nanoseconds. -/
def nanosOf (secs : Nat) : Int :=
  (secs * Instant.nanosPerSecond : Nat)

/-- Whether a session ended long enough before `asOf` to be removed. -/
def isExpired (config : Config) (s : Session) (asOf : Instant) : Bool :=
  s.status = .ended && nanosOf config.endedRetention ≤ asOf.since s.updatedAt

/-- Whether a session is to be ended at `asOf` because it has waited too long. -/
def isAbandoned (config : Config) (s : Session) (asOf : Instant) : Bool :=
  s.isIdle asOf (nanosOf config.idleTimeout)

/-- Ends the session of the given id as idle, as of `asOf`; told when it is `now`. -/
def endIdle (asOf : Instant) (now : Clock) (e : Engine) (sessionId : String) : Engine :=
  match e.sessions.get? sessionId with
  | none => e
  | some s => (e.putSession (s.close asOf).2).announceEnd sessionId .idle
      (now.recording sessionId 0) (now.announcing sessionId 0)

/-- Removes a session with all subscriptions to it. -/
def removeSession (e : Engine) (sessionId : String) : Engine :=
  { e with
    sessions := e.sessions.erase sessionId
    gateway := e.gateway.dropSession sessionId }

/-- One sweep. `asOf` decides what has come to its end and marks the sessions that are ended; what
is recorded and announced carries the readings of the clock. -/
def sweep (e : Engine) (asOf : Instant) (now : Clock) : SweepReport × Engine :=
  let removed := (e.sessions.values.filter (isExpired e.config · asOf)).map Session.id
  let idleEnded := (e.sessions.values.filter (isAbandoned e.config · asOf)).map Session.id
  let e := idleEnded.foldl (endIdle asOf now) e
  let e := removed.foldl removeSession e
  (⟨idleEnded, removed⟩,
    { e with whereabouts := e.whereabouts.filter fun _ sessionId => sessionId ∉ removed })

end Engine

/-- When sweeps happen, in milliseconds of a clock that only goes forward. -/
structure SweepTimer where
  due : Nat
  interval : Nat
  deriving DecidableEq, Repr

namespace SweepTimer

/-- The longest time between two sweeps, in seconds: thirty years of 365 days. A configured interval
that is longer counts as this one. -/
def longestInterval : Nat := 30 * 365 * Instant.secondsPerDay

/-- A timer whose first sweep is due at once. -/
def start (config : Config) (now : Nat) : SweepTimer :=
  ⟨now, min config.reapInterval longestInterval * 1000⟩

/-- By how many milliseconds a sweep may be late without delaying the next one. -/
def tolerance : Nat := 5

/-- The timer after a sweep at `now`. -/
def next (t : SweepTimer) (now : Nat) : SweepTimer :=
  { t with due := (if t.due + tolerance < now then now else t.due) + t.interval }

end SweepTimer

namespace Engine

/-- Sweeps if it is time to. `timer` is read off the clock of the timer, `now` off the calendar. -/
def tick (e : Engine) (timer : SweepTimer) (clock : Nat) (now : Instant) : SweepTimer × Engine :=
  if timer.due ≤ clock then (timer.next clock, (e.sweep now now).2) else (timer, e)

/-- `steps` ticks, each `stepMillis` after the one before it. -/
def runTicks : Nat → Nat → Engine → SweepTimer → Nat → Instant → Engine × Instant
  | 0, _, e, _, _, now => (e, now)
  | steps + 1, stepMillis, e, timer, clock, now =>
    let clock := clock + stepMillis
    let now := now.plus (stepMillis * 1000000 : Nat)
    let (timer, e) := e.tick timer clock now
    runTicks steps stepMillis e timer clock now

/-- A sweep at once, and then those that fall due in `steps` steps of `stepMillis` milliseconds.
Gives the time at the end. -/
def runSweeps (e : Engine) (steps stepMillis : Nat) (now : Instant) : Engine × Instant :=
  let (timer, e) := e.tick (.start e.config 0) 0 now
  runTicks steps stepMillis e timer 0 now

end Engine

end CoEdit

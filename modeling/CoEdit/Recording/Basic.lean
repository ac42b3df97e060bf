import CoEdit.Notice

/-!
# Recordings

The append-only log of a session, with the people who appear in it. Entries are numbered from zero,
and their times never go back: an entry that comes with an earlier time gets the time of the entry
before it.

## Main definitions

* `Recording`, `Attendee`.
* `Recording.push`: appends a fact.
* `Recording.duration`: from the first entry to the last.
-/

namespace CoEdit

open CoEdit.Time (Instant)

/-- Someone who appears in a recording. -/
structure Attendee where
  userId : String
  userName : String
  role : Role
  firstSeen : Instant
  deriving DecidableEq, Repr

/-- The log of a session. -/
structure Recording where
  sessionId : String
  entries : List Entry
  attendees : List Attendee
  deriving DecidableEq, Repr

/-- A time, or an earlier bound on it if that is later. -/
def atOrAfter (bound : Option Instant) (candidate : Instant) : Instant :=
  bound.elim candidate fun b => if candidate < b then b else candidate

namespace Recording

/-- The recording of a session before anything has happened. -/
def empty (sessionId : String) : Recording := ⟨sessionId, [], []⟩

/-- The time of the last entry. -/
def lastTime (r : Recording) : Option Instant :=
  r.entries.getLast?.map (·.timestamp)

/-- The user whom a fact brings in, with name and role. -/
def arrival : Fact → Option (String × String × Role)
  | .created hostId hostName _ _ _ => some (hostId, hostName, .host)
  | .joined userId userName role => some (userId, userName, role)
  | _ => none

/-- Lists someone who appears; someone listed already only takes the new name. -/
def noteAttendee (attendees : List Attendee) (userId userName : String) (role : Role)
    (time : Instant) : List Attendee :=
  if attendees.any (·.userId = userId) then
    attendees.map fun a => if a.userId = userId then { a with userName } else a
  else attendees ++ [⟨userId, userName, role, time⟩]

/-- Appends a fact. -/
def push (r : Recording) (fact : Fact) (time : Instant) : Entry × Recording :=
  let entry : Entry := ⟨r.entries.length, atOrAfter r.lastTime time, fact⟩
  let attendees := match arrival fact with
    | some (userId, userName, role) =>
      noteAttendee r.attendees userId userName role entry.timestamp
    | none => r.attendees
  (entry, { r with entries := r.entries ++ [entry], attendees })

/-- The nanoseconds from the first entry to the last. -/
def duration (r : Recording) : Int :=
  match r.entries.head?, r.entries.getLast? with
  | some first, some last => last.timestamp.since first.timestamp
  | _, _ => 0

/-- The duration in whole milliseconds, toward zero. -/
def durationMillis (r : Recording) : Int :=
  r.duration.tdiv 1000000

end Recording

end CoEdit

import CoEdit.Recording.Basic
import CoEdit.Table

/-!
# The Archive

All recordings by session, in the order in which the sessions first appeared. Recordings outlive
their sessions.

## Main definitions

* `Archive`, with `Archive.record` and `Archive.get?`.
* `Archive.sessionIds`: the recorded sessions in ascending order.
-/

namespace CoEdit

open CoEdit.Time (Instant)

/-- The recordings of an engine. -/
structure Archive where
  recordings : Table Recording

namespace Archive

/-- The archive without recordings. -/
def empty : Archive := ⟨Table.empty⟩

/-- The recording of a session. -/
def get? (a : Archive) (sessionId : String) : Option Recording :=
  a.recordings.get? sessionId

/-- Appends a fact to the recording of a session, which begins with it if there is none yet. -/
def record (a : Archive) (sessionId : String) (fact : Fact) (time : Instant) : Entry × Archive :=
  let (entry, recording) := ((a.get? sessionId).getD (.empty sessionId)).push fact time
  (entry, ⟨a.recordings.put sessionId recording⟩)

/-- How many entries the recording of a session has. -/
def entryCount (a : Archive) (sessionId : String) : Nat :=
  (a.get? sessionId).elim 0 (·.entries.length)

/-- The recorded sessions, in ascending order of their ids. -/
def sessionIds (a : Archive) : List String :=
  a.recordings.keys.mergeSort fun x y => x ≤ y

/-- The number of recordings. -/
def size (a : Archive) : Nat :=
  a.recordings.size

end Archive

end CoEdit

import CoEdit.Recording.Basic

/-!
# Replaying a Recording

The document can be rebuilt from the recording alone: start from the seed that the session was
created with and apply the recorded changes in order. Stopping at a time gives the document as it
was then.

## Main definitions

* `Recording.seed?`, `Recording.changes`.
* `Recording.replay?`: the document at the end.
* `Recording.contentAt?`: the document at a time.
-/

namespace CoEdit

open CoEdit.Time (Instant)

/-- The change that an entry records, if it records one. -/
def Entry.change? (e : Entry) : Option Change :=
  match e.fact with
  | .changed change => some change
  | _ => none

/-- The seed that an entry records, if it records a creation. -/
def Entry.seed? (e : Entry) : Option String :=
  match e.fact with
  | .created _ _ _ _ seed => some seed
  | _ => none

namespace Recording

/-- The seed of the document: that of the first creation in the log. -/
def seed? (r : Recording) : Option String :=
  r.entries.findSome? Entry.seed?

/-- The recorded changes, in order. -/
def changes (r : Recording) : List Change :=
  r.entries.filterMap Entry.change?

/-- The document after the leading entries whose times pass a test. -/
def replayWhile (r : Recording) (keep : Instant → Bool) : Option String :=
  r.seed?.map fun seed =>
    foldChanges seed ((r.entries.takeWhile (keep ·.timestamp)).filterMap Entry.change?)

/-- The document at the end of the recording. -/
def replay? (r : Recording) : Option String :=
  r.replayWhile fun _ => true

/-- The document as it was at a time. -/
def contentAt? (r : Recording) (time : Instant) : Option String :=
  r.replayWhile fun t => t ≤ time

end Recording

end CoEdit

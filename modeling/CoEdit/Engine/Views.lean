import CoEdit.Engine.Basic

/-!
# Looking at the Engine

Questions that change nothing: one session, the public sessions, where a user is, how many there
are.

## Main definitions

* `Engine.snapshot?`, `Engine.publicSessions`, `Engine.sessionOf?`, `Engine.recording?`.
-/

namespace CoEdit.Engine

open CoEdit.Time (Instant)

/-- A session as its participants see it. -/
def snapshot? (e : Engine) (sessionId : String) : Option Snapshot :=
  (e.sessions.get? sessionId).map Session.snapshot

/-- The sessions of the public listing, the newest first; those created at the same time in order
of creation. -/
def publicSessions (e : Engine) : List Listing :=
  ((e.sessions.values.filter Session.isListed).map Session.listing).mergeSort
    fun a b => b.createdAt ≤ a.createdAt

/-- The session that a user is in. -/
def sessionOf? (e : Engine) (userId : String) : Option String :=
  e.whereabouts.get? userId

/-- How many sessions there are. -/
def sessionCount (e : Engine) : Nat :=
  e.sessions.size

/-- How many users are in a session. -/
def activeUserCount (e : Engine) : Nat :=
  e.whereabouts.size

/-- The recording of a session, which may be gone itself. -/
def recording? (e : Engine) (sessionId : String) : Option Recording :=
  e.archive.get? sessionId

end CoEdit.Engine

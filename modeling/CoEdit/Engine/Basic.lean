import CoEdit.Config
import CoEdit.Delivery.Gateway
import CoEdit.Engine.Clock
import CoEdit.Recording.Archive
import CoEdit.Session.Transitions

/-!
# The Engine

All sessions together: which there are, which user is in which, the gateway that tells participants
what happens, and the archive that records it. A user is in one session at most.

Operations take what the clock shows meanwhile, check everything before they change anything, and
give the next state along with their answer.

## Main definitions

* `Engine`, `Engine.new`, `Engine.build?`.
* `Engine.announce`, `Engine.log`: one message, one recorded fact.
* `Engine.freshSessionId`, `Engine.freshChangeId`: ids that were never given out before.
-/

namespace CoEdit

open CoEdit.Time (Instant)

/-- The state of an engine. `sessions` is in order of creation, `whereabouts` maps users to the
sessions they are in, and the two counters number the ids given out. -/
structure Engine where
  config : Config
  sessions : Table Session
  whereabouts : Table String
  gateway : Gateway
  archive : Archive
  sessionsMade : Nat
  changesMade : Nat

namespace Engine

/-- An engine without sessions. -/
def new (config : Config) : Engine where
  config := config
  sessions := Table.empty
  whereabouts := Table.empty
  gateway := Gateway.new config.tapCapacity
  archive := Archive.empty
  sessionsMade := 0
  changesMade := 0

/-- An engine without sessions, if its gateway can be made. -/
def build? (allots : Nat → Bool) (config : Config) : Option Engine :=
  (Gateway.build? allots config.tapCapacity).map fun gateway => { new config with gateway }

/-- The id of the next session. -/
def freshSessionId (e : Engine) : String :=
  "$s" ++ toString e.sessionsMade

/-- The id of the next change. -/
def freshChangeId (e : Engine) : String :=
  "$c" ++ toString e.changesMade

/-- A session of the engine, or a refusal. -/
def requireSession (e : Engine) (sessionId : String) : Except Error Session :=
  match e.sessions.get? sessionId with
  | some s => .ok s
  | none => .error (.sessionNotFound sessionId)

/-- Stores the new state of a session. -/
def putSession (e : Engine) (s : Session) : Engine :=
  { e with sessions := e.sessions.put s.id s }

/-- Sends a notice to the online participants of a session, except `exclude`. -/
def announce (e : Engine) (sessionId : String) (notice : Notice) (exclude : Option String)
    (now : Instant) : Engine :=
  { e with gateway := (e.gateway.broadcast sessionId notice exclude now).2 }

/-- Records a fact. -/
def log (e : Engine) (sessionId : String) (fact : Fact) (now : Instant) : Engine :=
  { e with archive := (e.archive.record sessionId fact now).2 }

/-- Records and announces the end of a session. -/
def announceEnd (e : Engine) (sessionId : String) (reason : EndReason)
    (recorded announced : Instant) : Engine :=
  let e := e.log sessionId (.ended reason) recorded
  e.announce sessionId (.sessionEnded reason) none announced

end Engine

end CoEdit

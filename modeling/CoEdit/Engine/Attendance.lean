import CoEdit.Engine.Basic

/-!
# Coming and Going

Creating a session, joining one, and leaving. Whoever creates or joins a session leaves the one
they were in, but only once the new place is theirs.

## Main definitions

* `Engine.create`, `Engine.join`, `Engine.leave`.
* `Engine.departFrom`: what leaving means for the session that is left.
-/

namespace CoEdit.Engine

/-- Takes a user out of a session: offline, no longer subscribed, recorded and announced, together
with the end of the session if it ends by this. -/
def departFrom (e : Engine) (sessionId userId : String) (now : Clock) : Engine :=
  match e.sessions.get? sessionId with
  | none => e
  | some s =>
    match s.depart userId (now.acting sessionId) with
    | .error _ => e
    | .ok (departure, s) =>
      let e := e.putSession s
      let e := { e with gateway := e.gateway.unsubscribe sessionId userId }
      let e := e.log sessionId (.left userId) (now.recording sessionId 0)
      let e := e.announce sessionId
        (.userLeft userId departure.participant.userName s.onlineCount) none
        (now.announcing sessionId 0)
      match departure.ended with
      | none => e
      | some reason =>
        e.announceEnd sessionId reason (now.recording sessionId 1) (now.announcing sessionId 1)

/-- What a session is created with: the creator's choices, and the engine's settings for what they
left open. -/
def settingsFor (config : Config) (hostName : String) (options : SessionOptions) :
    Except Error SessionSettings :=
  let maxParticipants := options.maxParticipants.getD config.maxParticipants
  if maxParticipants = 0 then .error (.invalidParams "max_participants must be at least 1")
  else .ok {
    title := (options.title.filter (!Text.isBlank ·)).getD (hostName ++ "'s session")
    language := options.language.getD config.defaultLanguage
    maxParticipants
    isPublic := options.isPublic
    lecturerAssistance := options.lecturerAssistance }

/-- Creates a session with its host in it. A blank name is replaced by the id. What is recorded
carries the time of the creation itself. -/
def create (e : Engine) (hostId hostName assignmentId : String) (options : SessionOptions)
    (now : Clock) : Except Error (Snapshot × Engine) := do
  require hostId .hostId
  let hostName := Text.orElseIfBlank hostName hostId
  let settings ← settingsFor e.config hostName options
  let sessionId := e.freshSessionId
  let s := Session.start sessionId hostId hostName assignmentId settings (now.acting sessionId)
  let e := match e.whereabouts.get? hostId with
    | none => e
    | some previous =>
      { e with whereabouts := e.whereabouts.erase hostId }.departFrom previous hostId now
  let e := e.log sessionId (.created hostId hostName s.title s.language s.content)
    (now.acting sessionId)
  let e := e.putSession s
  pure (s.snapshot,
    { e with
      gateway := e.gateway.subscribe sessionId hostId
      whereabouts := e.whereabouts.put hostId sessionId
      sessionsMade := e.sessionsMade + 1 })

/-- Lets a user into a session. Someone who is online there already is only announced again. -/
def join (e : Engine) (sessionId userId userName : String) (role : Role) (now : Clock) :
    Except Error (Snapshot × Engine) := do
  require sessionId .sessionId
  require userId .userId
  let s ← e.requireSession sessionId
  let (admission, s) ←
    s.join userId (Text.orElseIfBlank userName userId) role (now.acting sessionId)
  let entry := admission.participant
  let e := e.putSession s
  let e := { e with gateway := e.gateway.subscribe sessionId userId }
  let e := if admission.alreadyOnline then e
    else e.log sessionId (.joined userId entry.userName entry.role) (now.recording sessionId 0)
  let e := e.announce sessionId
    (.userJoined userId entry.userName entry.role entry.color s.onlineCount s.status) none
    (now.announcing sessionId 0)
  let previous := e.whereabouts.get? userId
  let e := { e with whereabouts := e.whereabouts.put userId sessionId }
  let e := match previous with
    | none => e
    | some previous => if previous = sessionId then e else e.departFrom previous userId now
  pure (s.snapshot, e)

/-- Takes a user out of the session they are in; false if they are in none. -/
def leave (e : Engine) (userId : String) (now : Clock) : Except Error (Bool × Engine) := do
  require userId .userId
  match e.whereabouts.get? userId with
  | none => pure (false, e)
  | some sessionId =>
    pure (true,
      { e with whereabouts := e.whereabouts.erase userId }.departFrom sessionId userId now)

end CoEdit.Engine

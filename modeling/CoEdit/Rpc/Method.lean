import CoEdit.Engine.Command
import CoEdit.Recording.Replay
import CoEdit.Rpc.Envelope
import CoEdit.Wire.Recording

/-!
# Methods

The methods that remote callers may call: their descriptions, how the parameters of each are read
into a call, and how a call is carried out on the engine.

## Main definitions

* `Method`, `Method.all`, `Method.named?`, `Method.definition`.
* `Call`, `Method.call`: a method with its parameters read.
* `Call.perform`: carries out a call.
-/

namespace CoEdit.Rpc

open CoEdit.Decode
open CoEdit.Time (Instant)

/-- The methods, in ascending order of their names. -/
inductive Method
  | applyChange
  | connect
  | createSession
  | disconnect
  | getPublicSessions
  | getRecording
  | getSessionInfo
  | joinSession
  | leaveSession
  | requestAssistance
  | updateCursor
  deriving DecidableEq, Repr

namespace Method

/-- All methods, in ascending order of their names. -/
def all : List Method :=
  [.applyChange, .connect, .createSession, .disconnect, .getPublicSessions, .getRecording,
    .getSessionInfo, .joinSession, .leaveSession, .requestAssistance, .updateCursor]

/-- The name by which a method is called. -/
def name : Method → String
  | .applyChange => "apply_change"
  | .connect => "connect"
  | .createSession => "create_session"
  | .disconnect => "disconnect"
  | .getPublicSessions => "get_public_sessions"
  | .getRecording => "get_recording"
  | .getSessionInfo => "get_session_info"
  | .joinSession => "join_session"
  | .leaveSession => "leave_session"
  | .requestAssistance => "request_assistance"
  | .updateCursor => "update_cursor"

/-- The method of a name. -/
def named? (name : String) : Option Method :=
  all.find? (·.name = name)

/-- What a method does, for its callers. -/
def description : Method → String
  | .applyChange =>
    "Apply an insert, delete or replace to the shared document. " ++
      "Positions and lengths count characters and are clamped to the document."
  | .connect =>
    "Start delivering a user's session events as session/event notifications. " ++
      "Replaces any earlier connection for the user."
  | .createSession =>
    "Create a collaboration session hosted by the caller. " ++
      "The session waits until a second participant joins."
  | .disconnect => "Stop delivering a user's events. Does not leave the session."
  | .getPublicSessions => "List public sessions that are open and have a free seat, newest first"
  | .getRecording =>
    "Fetch a session's recorded events. " ++
      "Recordings remain available after the session is removed."
  | .getSessionInfo => "Snapshot of a session: status, roster and current document"
  | .joinSession => "Join a session. Lecturers are admitted even when the session is full."
  | .leaveSession => "Leave the caller's current session. A host leaving ends the session."
  | .requestAssistance =>
    "Ask a lecturer for help. " ++
      "Sets the session's assistance flag and notifies every participant."
  | .updateCursor => "Publish the caller's cursor position to the other participants"

/-- The schema of a property of a type, with further entries. -/
def ofType (type : String) (more : List (String × Json)) : Json :=
  .object (("type", .text type) :: more)

/-- The schema of a string. -/
def stringType : Json := ofType "string" []

/-- The schema of a truth value. -/
def booleanType : Json := ofType "boolean" []

/-- The schema of a whole number that is no less than `least`. -/
def integerFrom (least : Nat) (more : List (String × Json)) : Json :=
  ofType "integer" (("minimum", .nat least) :: more)

/-- The entry that explains a property. -/
def explained (s : String) : List (String × Json) :=
  [("description", .text s)]

/-- The properties of a method's parameters. -/
def properties : Method → List (String × Json)
  | .applyChange =>
    [("session_id", stringType), ("author_id", stringType),
      ("type", ofType "string"
        [("enum", .array [.text "insert", .text "delete", .text "replace"])]),
      ("position", integerFrom 0 []),
      ("text", ofType "string" (explained "Required for insert and replace")),
      ("length", integerFrom 0 (explained "Required for delete and replace"))]
  | .connect | .disconnect | .leaveSession => [("user_id", stringType)]
  | .createSession =>
    [("host_id", stringType), ("host_name", stringType), ("assignment_id", stringType),
      ("title", ofType "string" (explained "Defaults to \"<host_name>'s session\"")),
      ("is_public", booleanType), ("lecturer_assistance", booleanType),
      ("language", stringType), ("max_participants", integerFrom 1 [])]
  | .getPublicSessions => []
  | .getRecording =>
    [("session_id", stringType), ("replay", ofType "boolean" [("default", .boolean false)])]
  | .getSessionInfo => [("session_id", stringType)]
  | .joinSession =>
    [("session_id", stringType), ("user_id", stringType), ("user_name", stringType),
      ("role", ofType "string"
        [("enum", .array [.text "participant", .text "observer", .text "lecturer"]),
          ("default", .text "participant")])]
  | .requestAssistance =>
    [("session_id", stringType), ("user_id", stringType), ("message", stringType)]
  | .updateCursor => [("user_id", stringType), ("position", integerFrom 0 [])]

/-- The parameters that a method demands. -/
def demanded : Method → List String
  | .applyChange => ["session_id", "author_id", "type", "position"]
  | .connect | .disconnect | .leaveSession => ["user_id"]
  | .createSession => ["host_id", "assignment_id"]
  | .getPublicSessions => []
  | .getRecording | .getSessionInfo => ["session_id"]
  | .joinSession | .requestAssistance => ["session_id", "user_id"]
  | .updateCursor => ["user_id", "position"]

/-- The schema of a method's parameters. -/
def schema (m : Method) : Json :=
  ofType "object" (("properties", .object m.properties) ::
    match m.demanded with
    | [] => []
    | keys => [("required", .array (keys.map .text))])

/-- A method as it is described to callers. -/
def definition (m : Method) : MethodDefinition :=
  ⟨m.name, m.description, m.schema⟩

end Method

/-! ### Calls -/

/-- A method with its parameters. -/
inductive Call
  | applyChange (sessionId authorId kind : String) (position : Nat) (text : Option String)
      (length : Option Nat)
  | connect (userId : String)
  | createSession (hostId hostName assignmentId : String) (options : SessionOptions)
  | disconnect (userId : String)
  | getPublicSessions
  | getRecording (sessionId : String) (replay : Bool)
  | getSessionInfo (sessionId : String)
  | joinSession (sessionId userId userName : String) (role : Role)
  | leaveSession (userId : String)
  | requestAssistance (sessionId userId : String) (message : Option String)
  | updateCursor (userId : String) (position : Nat)

namespace Call

/-- The parameter that names a user. -/
def userRecord : Record String := .required "user_id" text

/-- The parameter that names a session. -/
def sessionRecord : Record String := .required "session_id" text

/-- The parameters of `applyChange`. -/
def changeRecord : Record Call :=
  Call.applyChange <$> .required "session_id" text <*> .required "author_id" text <*>
    .required "type" text <*> .required "position" count <*> .optional "text" (nullable text) <*>
    .optional "length" (nullable count)

/-- The parameters of `createSession` that are not options. -/
def creationRecord : Record (String × String × String) :=
  (fun hostId hostName assignmentId => (hostId, hostName, assignmentId)) <$>
    .required "host_id" text <*> .defaulted "host_name" text "" <*>
    .required "assignment_id" text

/-- Reads the parameters of `createSession`, with the options spread among the others. -/
def decodeCreation : Decoder Call :=
  flattened "CreateParams" ["host_id", "host_name", "assignment_id"] creationRecord
    (SessionOptions.record.ofObject .buffered)
    fun own options => .createSession own.1 own.2.1 own.2.2 options

/-- The parameters of `joinSession`. -/
def joinRecord : Record Call :=
  Call.joinSession <$> .required "session_id" text <*> .required "user_id" text <*>
    .defaulted "user_name" text "" <*> .defaulted "role" Role.decode .participant

/-- The parameters of `requestAssistance`. -/
def assistanceRecord : Record Call :=
  Call.requestAssistance <$> .required "session_id" text <*> .required "user_id" text <*>
    .optional "message" (nullable text)

/-- The parameters of `getRecording`. -/
def recordingRecord : Record Call :=
  Call.getRecording <$> .required "session_id" text <*> .defaulted "replay" bool false

/-- The parameters of `updateCursor`. -/
def cursorRecord : Record Call :=
  Call.updateCursor <$> .required "user_id" text <*> .required "position" count

end Call

/-- Reads the parameters of a method. -/
def Method.decode : Method → Decoder Call
  | .applyChange => Call.changeRecord.decode "ChangeParams"
  | .connect => (Call.connect <$> Call.userRecord).decode "ConnectionParams"
  | .createSession => Call.decodeCreation
  | .disconnect => (Call.disconnect <$> Call.userRecord).decode "ConnectionParams"
  | .getPublicSessions => fun _ _ => .ok .getPublicSessions
  | .getRecording => Call.recordingRecord.decode "RecordingParams"
  | .getSessionInfo => (Call.getSessionInfo <$> Call.sessionRecord).decode "SessionParams"
  | .joinSession => Call.joinRecord.decode "JoinParams"
  | .leaveSession => (Call.leaveSession <$> Call.userRecord).decode "UserParams"
  | .requestAssistance => Call.assistanceRecord.decode "AssistanceParams"
  | .updateCursor => Call.cursorRecord.decode "CursorParams"

/-- A call from the parameters of a request; without parameters the object without entries. -/
def Method.call (m : Method) (params : Option Json) : Except Error Call :=
  (m.decode .direct (params.getD (.object []))).mapError fun cause =>
    .invalidParams cause.message

namespace Call

/-- A recording with its duration and, where wanted, the document at its end. -/
def recordingJson (r : Recording) (replay : Bool) : Json :=
  let content := if replay then r.replay? else none
  .object (r.toFields ++ [("duration_ms", .whole r.durationMillis)] ++
    match content with
    | none => []
    | some s => [("content", .text s)])

/-- A refusal to find a session, or what was found. -/
def found {α : Type} (sessionId : String) : Option α → Except Error α
  | some x => .ok x
  | none => .error (.sessionNotFound sessionId)

/-- Carries out a call. Connections made by a call lead to the mailbox `outbound`. -/
def perform (e : Engine) (outbound : Nat) (now : Clock) : Call → Except Error (Json × Engine)
  | .applyChange sessionId authorId kind position text length => do
    let op ← (Operation.ofParts kind position text length).mapError fun fault =>
      Error.invalidOperation fault.message
    let (change, e) ← e.change sessionId authorId op now
    pure (change.toJson, e)
  | .connect userId => do
    require userId .userId
    let (_, gateway) := e.gateway.connect userId (.shared outbound)
    pure (.object [("connected", .boolean true)], { e with gateway })
  | .createSession hostId hostName assignmentId options => do
    let (s, e) ← e.create hostId hostName assignmentId options now
    pure (s.toJson, e)
  | .disconnect userId =>
    let (removed, gateway) := e.gateway.disconnect userId
    .ok (.object [("disconnected", .boolean removed)], { e with gateway })
  | .getPublicSessions =>
    .ok (.object [("sessions", .array (e.publicSessions.map Listing.toJson))], e)
  | .getRecording sessionId replay => do
    let r ← found sessionId (e.recording? sessionId)
    pure (recordingJson r replay, e)
  | .getSessionInfo sessionId => do
    let s ← found sessionId (e.snapshot? sessionId)
    pure (s.toJson, e)
  | .joinSession sessionId userId userName role => do
    let (s, e) ← e.join sessionId userId userName role now
    pure (s.toJson, e)
  | .leaveSession userId => do
    let (left, e) ← e.leave userId now
    pure (.object [("left", .boolean left)], e)
  | .requestAssistance sessionId userId message => do
    let (_, e) ← e.assist sessionId userId message now
    pure (.object [("lecturer_assistance", .boolean true)], e)
  | .updateCursor userId position => do
    let (_, e) ← e.cursor userId position now
    pure (.object [("ok", .boolean true)], e)

end Call

end CoEdit.Rpc

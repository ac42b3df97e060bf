import CoEdit.Delivery.Mailbox
import CoEdit.Wire.Session

/-!
# Notices, Facts and Messages as JSON

Notices and facts are choices tagged by their kind. A message and a recorded entry spread the
fields of what they carry among their own. A message from a participant who asked for help is left
out where there is none.

## Main definitions

* `toJson` and `decode` for `Notice`, `Fact`, `Entry`, `Message`, `Delivery`.
-/

namespace CoEdit

open CoEdit.Decode

/-- The entry for an optional message: none at all where there is no message. -/
def messageField : Option String → List (String × Json)
  | none => []
  | some message => [("message", .text message)]

namespace Notice

/-- The entries of a notice, its kind first. -/
def toFields (n : Notice) : List (String × Json) :=
  ("type", .text n.name) :: match n with
  | .userJoined userId userName role color onlineCount status =>
    [("user_id", .text userId), ("user_name", .text userName), ("role", role.toJson),
      ("color", .text color), ("online_count", .nat onlineCount), ("status", status.toJson)]
  | .userLeft userId userName onlineCount =>
    [("user_id", .text userId), ("user_name", .text userName), ("online_count", .nat onlineCount)]
  | .codeChange change content => [("change", change.toJson), ("content", .text content)]
  | .cursorUpdate userId userName position color =>
    [("user_id", .text userId), ("user_name", .text userName), ("position", .nat position),
      ("color", .text color)]
  | .helpRequested userId userName message =>
    [("user_id", .text userId), ("user_name", .text userName)] ++ messageField message
  | .sessionEnded reason => [("reason", reason.toJson)]

/-- A notice as an object. -/
def toJson (n : Notice) : Json :=
  .object n.toFields

/-- The kinds of notice with their fields. -/
def cases : List (Case Notice) :=
  [⟨"user_joined", "UserJoined",
      Notice.userJoined <$> .required "user_id" text <*> .required "user_name" text <*>
        .required "role" Role.decode <*> .required "color" text <*>
        .required "online_count" count <*> .required "status" Status.decode⟩,
    ⟨"user_left", "UserLeft",
      Notice.userLeft <$> .required "user_id" text <*> .required "user_name" text <*>
        .required "online_count" count⟩,
    ⟨"code_change", "CodeChange",
      Notice.codeChange <$> .required "change" Change.decode <*> .required "content" text⟩,
    ⟨"cursor_update", "CursorUpdate",
      Notice.cursorUpdate <$> .required "user_id" text <*> .required "user_name" text <*>
        .required "position" count <*> .required "color" text⟩,
    ⟨"lecturer_assistance_requested", "LecturerAssistanceRequested",
      Notice.helpRequested <$> .required "user_id" text <*> .required "user_name" text <*>
        .optional "message" (nullable text)⟩,
    ⟨"session_ended", "SessionEnded",
      Notice.sessionEnded <$> .required "reason" EndReason.decode⟩]

/-- Reads a notice. -/
def decode : Decoder Notice :=
  tagged "SessionEvent" cases

end Notice

namespace Fact

/-- The name of a kind of fact. -/
def name : Fact → String
  | .created .. => "session_created"
  | .joined .. => "participant_joined"
  | .left _ => "participant_left"
  | .changed _ => "change_applied"
  | .helpRequested .. => "lecturer_assistance_requested"
  | .ended _ => "session_ended"

/-- The entries of a fact, its kind first. -/
def toFields (f : Fact) : List (String × Json) :=
  ("type", .text f.name) :: match f with
  | .created hostId hostName title language seed =>
    [("host_id", .text hostId), ("host_name", .text hostName), ("title", .text title),
      ("language", .text language), ("seed", .text seed)]
  | .joined userId userName role =>
    [("user_id", .text userId), ("user_name", .text userName), ("role", role.toJson)]
  | .left userId => [("user_id", .text userId)]
  | .changed change => [("change", change.toJson)]
  | .helpRequested userId message => ("user_id", .text userId) :: messageField message
  | .ended reason => [("reason", reason.toJson)]

/-- A fact as an object. -/
def toJson (f : Fact) : Json :=
  .object f.toFields

/-- The kinds of fact with their fields. -/
def cases : List (Case Fact) :=
  [⟨"session_created", "SessionCreated",
      Fact.created <$> .required "host_id" text <*> .required "host_name" text <*>
        .required "title" text <*> .required "language" text <*> .required "seed" text⟩,
    ⟨"participant_joined", "ParticipantJoined",
      Fact.joined <$> .required "user_id" text <*> .required "user_name" text <*>
        .required "role" Role.decode⟩,
    ⟨"participant_left", "ParticipantLeft", Fact.left <$> .required "user_id" text⟩,
    ⟨"change_applied", "ChangeApplied", Fact.changed <$> .required "change" Change.decode⟩,
    ⟨"lecturer_assistance_requested", "LecturerAssistanceRequested",
      Fact.helpRequested <$> .required "user_id" text <*>
        .optional "message" (nullable text)⟩,
    ⟨"session_ended", "SessionEnded", Fact.ended <$> .required "reason" EndReason.decode⟩]

/-- Reads a fact. -/
def decode : Decoder Fact :=
  tagged "RecordedEventKind" cases

end Fact

namespace Entry

/-- A recorded entry as an object: number, time, and the entries of the fact. -/
def toJson (e : Entry) : Json :=
  .object ([("sequence", .nat e.sequence), ("timestamp", instantJson e.timestamp)] ++
    e.fact.toFields)

/-- The fields of an entry that are not those of its fact. -/
def record : Record (Nat × Time.Instant) :=
  Prod.mk <$> .required "sequence" serial <*> .required "timestamp" instant

/-- Reads a recorded entry. -/
def decode : Decoder Entry :=
  flattened "RecordedEvent" ["sequence", "timestamp"] record
    (taggedFields Fact.cases .buffered) fun own fact => ⟨own.1, own.2, fact⟩

end Entry

namespace Message

/-- A message as an object: its own fields, and the entries of the notice. -/
def toJson (m : Message) : Json :=
  .object ([("session_id", .text m.sessionId), ("sequence_id", .nat m.sequence),
    ("timestamp", .whole m.timestamp)] ++ m.notice.toFields)

/-- The fields of a message that are not those of its notice. -/
def record : Record (String × Nat × Int) :=
  (fun sessionId sequence timestamp => (sessionId, sequence, timestamp)) <$>
    .required "session_id" text <*> .required "sequence_id" serial <*>
    .required "timestamp" integer

/-- Reads a message. -/
def decode : Decoder Message :=
  flattened "BroadcastMessage" ["session_id", "sequence_id", "timestamp"] record
    (taggedFields Notice.cases .buffered) fun own notice => ⟨own.1, own.2.1, own.2.2, notice⟩

end Message

/-- A delivery as an object: the user it is for, and the message. -/
def Delivery.toJson (d : Delivery) : Json :=
  .object [("user_id", .text d.userId), ("message", d.message.toJson)]

end CoEdit

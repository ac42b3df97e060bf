import CoEdit.Session.Basic
import CoEdit.Wire.Change

/-!
# Sessions as JSON

Roles, statuses, roster entries, creation options, and the two views of a session.

## Main definitions

* `toJson` and `decode` for `Role`, `Status`, `EndReason`, `Participant`, `SessionOptions`,
  `Snapshot`, `Listing`.
-/

namespace CoEdit

open CoEdit.Decode

/-- A role by its name. -/
def Role.toJson (r : Role) : Json := .text r.name

/-- Reads a role. -/
def Role.decode : Decoder Role :=
  choice ([Role.host, .participant, .observer, .lecturer].map fun r => (r.name, r))

/-- A status by its name. -/
def Status.toJson (s : Status) : Json := .text s.name

/-- Reads a status. -/
def Status.decode : Decoder Status :=
  choice ([Status.waiting, .active, .ended].map fun s => (s.name, s))

/-- A reason by its name. -/
def EndReason.toJson (r : EndReason) : Json := .text r.name

/-- Reads a reason. -/
def EndReason.decode : Decoder EndReason :=
  choice ([EndReason.hostLeft, .empty, .idle].map fun r => (r.name, r))

namespace Participant

/-- A roster entry as an object. -/
def toJson (p : Participant) : Json :=
  .object [("user_id", .text p.userId), ("user_name", .text p.userName),
    ("role", p.role.toJson), ("cursor_position", .nat p.cursor),
    ("joined_at", instantJson p.joinedAt), ("last_activity", instantJson p.lastActivity),
    ("is_online", .boolean p.isOnline), ("color", .text p.color)]

/-- The fields of a roster entry. -/
def record : Record Participant :=
  Participant.mk <$> .required "user_id" text <*> .required "user_name" text <*>
    .required "role" Role.decode <*> .required "cursor_position" count <*>
    .required "joined_at" instant <*> .required "last_activity" instant <*>
    .required "is_online" bool <*> .required "color" text

/-- Reads a roster entry. -/
def decode : Decoder Participant :=
  record.decode "Participant"

end Participant

namespace SessionOptions

/-- The entries of the options, for an object of their own or among other entries. -/
def toFields (o : SessionOptions) : List (String × Json) :=
  [("title", .optText o.title), ("is_public", .boolean o.isPublic),
    ("lecturer_assistance", .boolean o.lecturerAssistance), ("language", .optText o.language),
    ("max_participants", .optNat o.maxParticipants)]

/-- Options as an object. -/
def toJson (o : SessionOptions) : Json :=
  .object o.toFields

/-- The fields of options, all of which may be absent. -/
def record : Record SessionOptions :=
  SessionOptions.mk <$> .defaulted "title" (nullable text) none <*>
    .defaulted "is_public" bool false <*> .defaulted "lecturer_assistance" bool false <*>
    .defaulted "language" (nullable text) none <*>
    .defaulted "max_participants" (nullable count) none

/-- Reads options. -/
def decode : Decoder SessionOptions :=
  record.decode "SessionOptions"

end SessionOptions

namespace Snapshot

/-- A snapshot as an object. -/
def toJson (s : Snapshot) : Json :=
  .object [("id", .text s.id), ("title", .text s.title),
    ("assignment_id", .text s.assignmentId), ("host_id", .text s.hostId),
    ("status", s.status.toJson), ("created_at", instantJson s.createdAt),
    ("updated_at", instantJson s.updatedAt),
    ("participants", .array (s.participants.map Participant.toJson)),
    ("content", .text s.content), ("language", .text s.language),
    ("online_count", .nat s.onlineCount), ("max_participants", .nat s.maxParticipants),
    ("is_public", .boolean s.isPublic), ("lecturer_assistance", .boolean s.lecturerAssistance),
    ("change_count", .nat s.changeCount)]

/-- The fields of a snapshot. -/
def record : Record Snapshot :=
  Snapshot.mk <$> .required "id" text <*> .required "title" text <*>
    .required "assignment_id" text <*> .required "host_id" text <*>
    .required "status" Status.decode <*> .required "created_at" instant <*>
    .required "updated_at" instant <*> .required "participants" (list Participant.decode) <*>
    .required "content" text <*> .required "language" text <*>
    .required "online_count" count <*> .required "max_participants" count <*>
    .required "is_public" bool <*> .required "lecturer_assistance" bool <*>
    .required "change_count" count

/-- Reads a snapshot. -/
def decode : Decoder Snapshot :=
  record.decode "SessionInfo"

end Snapshot

namespace Listing

/-- A listing as an object. -/
def toJson (l : Listing) : Json :=
  .object [("id", .text l.id), ("title", .text l.title),
    ("assignment_id", .text l.assignmentId), ("host_id", .text l.hostId),
    ("host_name", .text l.hostName), ("status", l.status.toJson),
    ("language", .text l.language), ("online_count", .nat l.onlineCount),
    ("max_participants", .nat l.maxParticipants), ("created_at", instantJson l.createdAt)]

/-- The fields of a listing. -/
def record : Record Listing :=
  Listing.mk <$> .required "id" text <*> .required "title" text <*>
    .required "assignment_id" text <*> .required "host_id" text <*>
    .required "host_name" text <*> .required "status" Status.decode <*>
    .required "language" text <*> .required "online_count" count <*>
    .required "max_participants" count <*> .required "created_at" instant

/-- Reads a listing. -/
def decode : Decoder Listing :=
  record.decode "PublicSessionSummary"

end Listing

end CoEdit

import CoEdit.Recording.Basic
import CoEdit.Wire.Notice

/-!
# Recordings as JSON

## Main definitions

* `toJson` and `decode` for `Attendee` and `Recording`.
-/

namespace CoEdit

open CoEdit.Decode

namespace Attendee

/-- Someone who appears in a recording, as an object. -/
def toJson (a : Attendee) : Json :=
  .object [("user_id", .text a.userId), ("user_name", .text a.userName),
    ("role", a.role.toJson), ("first_seen", instantJson a.firstSeen)]

/-- The fields of someone who appears. -/
def record : Record Attendee :=
  Attendee.mk <$> .required "user_id" text <*> .required "user_name" text <*>
    .required "role" Role.decode <*> .required "first_seen" instant

/-- Reads someone who appears. -/
def decode : Decoder Attendee :=
  record.decode "RecordedParticipant"

end Attendee

namespace Recording

/-- The entries of a recording as an object. -/
def toFields (r : Recording) : List (String × Json) :=
  [("session_id", .text r.sessionId), ("events", .array (r.entries.map Entry.toJson)),
    ("participants", .array (r.attendees.map Attendee.toJson))]

/-- A recording as an object. -/
def toJson (r : Recording) : Json :=
  .object r.toFields

/-- The fields of a recording. -/
def record : Record Recording :=
  Recording.mk <$> .required "session_id" text <*> .required "events" (list Entry.decode) <*>
    .required "participants" (list Attendee.decode)

/-- Reads a recording. -/
def decode : Decoder Recording :=
  record.decode "SessionRecording"

end Recording

end CoEdit

import CoEdit.Change
import CoEdit.Decode.Record

/-!
# Edits and Changes as JSON

## Main definitions

* `Operation.toJson`, `Operation.decode`: a choice tagged by the kind of edit.
* `Change.toJson`, `Change.decode`.
-/

namespace CoEdit

open CoEdit.Decode

/-- A timestamp as a value. -/
def instantJson (t : Time.Instant) : Json :=
  .text (Time.Rfc3339.render t)

namespace Operation

/-- An edit as an object, its kind first. -/
def toJson : Operation → Json
  | .insert position text =>
    .object [("type", .text "insert"), ("position", .nat position), ("text", .text text)]
  | .delete position length =>
    .object [("type", .text "delete"), ("position", .nat position), ("length", .nat length)]
  | .replace position text length =>
    .object [("type", .text "replace"), ("position", .nat position), ("text", .text text),
      ("length", .nat length)]

/-- The kinds of edit with their fields. -/
def cases : List (Case Operation) :=
  [⟨"insert", "Insert",
      Operation.insert <$> .required "position" count <*> .required "text" text⟩,
    ⟨"delete", "Delete",
      Operation.delete <$> .required "position" count <*> .required "length" count⟩,
    ⟨"replace", "Replace",
      Operation.replace <$> .required "position" count <*> .required "text" text <*>
        .required "length" count⟩]

/-- Reads an edit. -/
def decode : Decoder Operation :=
  tagged "Operation" cases

end Operation

namespace Change

/-- A change as an object. -/
def toJson (c : Change) : Json :=
  .object [("id", .text c.id), ("author_id", .text c.authorId),
    ("timestamp", instantJson c.timestamp), ("operation", c.operation.toJson)]

/-- The fields of a change. -/
def record : Record Change :=
  Change.mk <$> .required "id" text <*> .required "author_id" text <*>
    .required "timestamp" instant <*> .required "operation" Operation.decode

/-- Reads a change. -/
def decode : Decoder Change :=
  record.decode "Change"

end Change

end CoEdit

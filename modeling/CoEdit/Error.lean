import CoEdit.Session.Status
import CoEdit.Text.Blank

/-!
# Errors

Why an operation of the engine is refused, in which category a refusal falls, and its wording.

## Main definitions

* `Error`, with `Error.message`.
* `Category`, with the code by which remote callers know it, and `Error.category`.
* `require`: refuses blank identifiers.
-/

namespace CoEdit

/-- The identifiers that an operation may demand. -/
inductive Field
  | sessionId
  | userId
  | authorId
  | hostId
  deriving DecidableEq, Repr

/-- The name of an identifier. -/
def Field.name : Field → String
  | .sessionId => "session_id"
  | .userId => "user_id"
  | .authorId => "author_id"
  | .hostId => "host_id"

/-- Why an operation is refused. -/
inductive Error
  /-- There is no session of that id. -/
  | sessionNotFound (sessionId : String)
  /-- The session has as many participants online as it may have. -/
  | sessionFull (sessionId : String) (maxParticipants : Nat)
  /-- The session's status is none of those that the operation needs. -/
  | sessionInactive (sessionId : String) (status : Status) (needed : List Status)
  /-- The user is in no session, or not in this one. -/
  | notInSession (userId : String)
  /-- The user is not on the session's roster. -/
  | participantNotFound (sessionId userId : String)
  /-- An identifier is blank. -/
  | missingField (field : Field)
  /-- The arguments do not fit. -/
  | invalidParams (details : String)
  /-- The parts given make no edit. -/
  | invalidOperation (details : String)
  /-- A value could not be written as text. -/
  | serialization (details : String)
  /-- Reading or writing failed. -/
  | io (details : String)
  deriving DecidableEq, Repr

/-- The kinds of refusal that callers tell apart. -/
inductive Category
  | notFound
  | conflict
  | validation
  | internal
  deriving DecidableEq, Repr

namespace Category

/-- The name of a category. -/
def name : Category → String
  | .notFound => "not_found"
  | .conflict => "conflict"
  | .validation => "validation"
  | .internal => "internal"

/-- The code of a category in answers to remote calls. -/
def code : Category → Int
  | .notFound => -32004
  | .conflict => -32009
  | .validation => -32602
  | .internal => -32603

end Category

namespace Error

/-- The category of an error. -/
def category : Error → Category
  | .sessionNotFound _ => .notFound
  | .sessionFull .. | .sessionInactive .. | .notInSession _ | .participantNotFound .. => .conflict
  | .missingField _ | .invalidParams _ => .validation
  | .invalidOperation _ | .serialization _ | .io _ => .internal

/-- The wording of an error. -/
def message : Error → String
  | .sessionNotFound id => "session not found: " ++ id
  | .sessionFull id limit => "session " ++ id ++ " is full (" ++ toString limit ++ " max)"
  | .sessionInactive id status needed =>
    "session " ++ id ++ " is " ++ status.name ++ ", expected " ++
      " or ".intercalate (needed.map Status.name)
  | .notInSession user => "user " ++ user ++ " is not connected to a session"
  | .participantNotFound session user =>
    "user " ++ user ++ " is not a participant of session " ++ session
  | .missingField field => "missing required field: " ++ field.name
  | .invalidParams details => "invalid params: " ++ details
  | .invalidOperation details => "invalid operation: " ++ details
  | .serialization details => "serialization error: " ++ details
  | .io details => "IO error: " ++ details

end Error

/-- Refuses a blank identifier. -/
def require (value : String) (field : Field) : Except Error Unit :=
  if Text.isBlank value then .error (.missingField field) else .ok ()

end CoEdit

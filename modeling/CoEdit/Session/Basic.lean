import CoEdit.Change
import CoEdit.Error
import CoEdit.Participant

/-!
# Sessions

One editing session: its roster, its document with the changes that led to it, and the snapshots of
it that callers see. The state is changed by the functions of `CoEdit.Session.Transitions` only.

## Main definitions

* `Session`, `Session.start`, `seedContent`.
* `Session.participant?`, `Session.isOnline`, `Session.onlineCount`: the roster.
* `Snapshot`, `Listing`, `SessionOptions`: what callers see and ask for.
-/

namespace CoEdit

open CoEdit.Time (Instant)

/-- What the creator of a session may choose. -/
structure SessionOptions where
  title : Option String := none
  isPublic : Bool := false
  lecturerAssistance : Bool := false
  language : Option String := none
  maxParticipants : Option Nat := none
  deriving DecidableEq, Repr

/-- What is settled about a session when it is created. -/
structure SessionSettings where
  title : String
  language : String
  maxParticipants : Nat
  isPublic : Bool
  lecturerAssistance : Bool
  deriving DecidableEq, Repr

/-- A session as its participants see it. -/
structure Snapshot where
  id : String
  title : String
  assignmentId : String
  hostId : String
  status : Status
  createdAt : Instant
  updatedAt : Instant
  participants : List Participant
  content : String
  language : String
  onlineCount : Nat
  maxParticipants : Nat
  isPublic : Bool
  lecturerAssistance : Bool
  changeCount : Nat
  deriving DecidableEq, Repr

/-- A session as the public listing shows it. -/
structure Listing where
  id : String
  title : String
  assignmentId : String
  hostId : String
  hostName : String
  status : Status
  language : String
  onlineCount : Nat
  maxParticipants : Nat
  createdAt : Instant
  deriving DecidableEq, Repr

/-- The text that a session's document starts with. -/
def seedContent (title assignmentId : String) : String :=
  "# " ++ title ++ "\n# Assignment: " ++ assignmentId ++ "\n\n"

/-- The state of a session. The document is `content`; `history` holds the latest changes one by
one, and `base` is the document before them, with `compacted` older changes folded in. -/
structure Session where
  id : String
  title : String
  assignmentId : String
  hostId : String
  status : Status
  createdAt : Instant
  updatedAt : Instant
  roster : List Participant
  base : String
  content : String
  language : String
  history : List Change
  compacted : Nat
  maxParticipants : Nat
  isPublic : Bool
  lecturerAssistance : Bool
  deriving DecidableEq, Repr

namespace Session

/-- A new session: waiting, with its host online and the seed as its document. -/
def start (id hostId hostName assignmentId : String) (settings : SessionSettings)
    (now : Instant) : Session where
  id := id
  title := settings.title
  assignmentId := assignmentId
  hostId := hostId
  status := .waiting
  createdAt := now
  updatedAt := now
  roster := [Participant.enter hostId hostName .host (colorAt 0) now]
  base := seedContent settings.title assignmentId
  content := seedContent settings.title assignmentId
  language := settings.language
  history := []
  compacted := 0
  maxParticipants := settings.maxParticipants
  isPublic := settings.isPublic
  lecturerAssistance := settings.lecturerAssistance

/-- The roster entry of a user. -/
def participant? (s : Session) (userId : String) : Option Participant :=
  s.roster.find? (·.userId = userId)

/-- Whether a user is on the roster and online. -/
def isOnline (s : Session) (userId : String) : Bool :=
  (s.participant? userId).any (·.isOnline)

/-- How many participants are online. -/
def onlineCount (s : Session) : Nat :=
  s.roster.countP (·.isOnline)

/-- How many changes were applied. -/
def changeCount (s : Session) : Nat :=
  s.compacted + s.history.length

/-- Whether the public listing shows the session: public, not ended, and with a free place. -/
def isListed (s : Session) : Bool :=
  s.isPublic && s.status.isOpen && s.onlineCount < s.maxParticipants

/-- Whether the session is to be given up: it still waits, and nobody is online or nothing happened
for `timeout` nanoseconds. -/
def isIdle (s : Session) (now : Instant) (timeout : Int) : Bool :=
  s.status = .waiting && (s.onlineCount = 0 || timeout ≤ now.since s.updatedAt)

/-- The session as its participants see it. -/
def snapshot (s : Session) : Snapshot where
  id := s.id
  title := s.title
  assignmentId := s.assignmentId
  hostId := s.hostId
  status := s.status
  createdAt := s.createdAt
  updatedAt := s.updatedAt
  participants := s.roster
  content := s.content
  language := s.language
  onlineCount := s.onlineCount
  maxParticipants := s.maxParticipants
  isPublic := s.isPublic
  lecturerAssistance := s.lecturerAssistance
  changeCount := s.changeCount

/-- The session as the public listing shows it. -/
def listing (s : Session) : Listing where
  id := s.id
  title := s.title
  assignmentId := s.assignmentId
  hostId := s.hostId
  hostName := (s.participant? s.hostId).elim "" (·.userName)
  status := s.status
  language := s.language
  onlineCount := s.onlineCount
  maxParticipants := s.maxParticipants
  createdAt := s.createdAt

end Session

end CoEdit

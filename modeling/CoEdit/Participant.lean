import CoEdit.Time.Instant

/-!
# Participants

The entries of a session's roster: who takes part, in which role and colour, where their cursor
stands, and whether they are online.

## Main definitions

* `Role`, with `Role.bypassesCapacity`.
* `palette`, `colorAt`: the colours handed out in order of arrival.
* `Participant`, with `Participant.enter` and `Participant.touch`.
-/

namespace CoEdit

open CoEdit.Time (Instant)

/-- What someone is in a session. -/
inductive Role
  | host
  | participant
  | observer
  | lecturer
  deriving DecidableEq, Repr, Inhabited

namespace Role

/-- The name of a role. -/
def name : Role → String
  | .host => "host"
  | .participant => "participant"
  | .observer => "observer"
  | .lecturer => "lecturer"

/-- Lecturers are admitted to a full session. -/
def bypassesCapacity : Role → Bool
  | .lecturer => true
  | _ => false

/-- The role in which someone joins: a session has one host, who does not join it. -/
def onJoining : Role → Role
  | .host => .participant
  | other => other

end Role

/-- The colours of a roster, in order of arrival. -/
def palette : List String :=
  ["#FF6B6B", "#4ECDC4", "#45B7D1", "#96CEB4", "#FFEAA7", "#DDA0DD", "#98D8C8", "#F7DC6F"]

/-- The colour of the entry at a place of the roster; the palette repeats. -/
def colorAt (index : Nat) : String :=
  palette.get ⟨index % palette.length, Nat.mod_lt _ (by decide)⟩

/-- An entry of the roster. -/
structure Participant where
  userId : String
  userName : String
  role : Role
  cursor : Nat
  joinedAt : Instant
  lastActivity : Instant
  isOnline : Bool
  color : String
  deriving DecidableEq, Repr

namespace Participant

/-- The entry of someone who comes in: online, with the cursor at the start. -/
def enter (userId userName : String) (role : Role) (color : String) (now : Instant) :
    Participant where
  userId := userId
  userName := userName
  role := role
  cursor := 0
  joinedAt := now
  lastActivity := now
  isOnline := true
  color := color

/-- Notes activity. A clock that went back changes nothing. -/
def touch (p : Participant) (now : Instant) : Participant :=
  { p with lastActivity := p.lastActivity.later now }

end Participant

end CoEdit

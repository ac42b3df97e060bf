import CoEdit.Proofs.Session.Likeness

/-!
# Sessions at Rest

Where somebody's cursor stands, and when they were last active, is kept in their entry for others to
see, and nothing else is made to depend on it. Put all cursors back to the start and forget about
the activity: what is left of a session is what it acts upon.

## Main definitions

* `Participant.atRest`, `Session.atRest`, `Snapshot.atRest`: without cursors and marks of activity.

## Main results

* `Participant.likeness_atRest`: actions take no notice of cursors and marks of activity.
* `Session.like_iff_atRest`: sessions are alike in this sense if they are the same at rest.
* `Session.atRest_moveCursor`: a cursor that moves leaves the session as it is at rest.
-/

namespace CoEdit

open CoEdit.Time (Instant)

/-- An entry with its cursor at the start, and active last when its user came. -/
def Participant.atRest (p : Participant) : Participant :=
  { p with cursor := 0, lastActivity := p.joinedAt }

/-- A snapshot without cursors and marks of activity. -/
def Snapshot.atRest (s : Snapshot) : Snapshot :=
  { s with participants := s.participants.map Participant.atRest }

/-- Actions take no notice of cursors and marks of activity. -/
theorem Participant.likeness_atRest :
    Participant.Likeness fun p q : Participant => q.atRest = p.atRest where
  refl _ := rfl
  userId h := (congrArg Participant.userId h :)
  userName h := (congrArg Participant.userName h :)
  role h := (congrArg Participant.role h :)
  color h := (congrArg Participant.color h :)
  isOnline h := (congrArg Participant.isOnline h :)
  touch _ h := h
  setOnline isOnline h := congrArg (fun p : Participant => { p with isOnline }) h
  point _ h := h

/-- Rosters whose entries are the same at rest, one by one, are the same at rest. -/
theorem Participant.forall₂_atRest_iff {entries entries' : List Participant} :
    List.Forall₂ (fun p q => q.atRest = p.atRest) entries entries' ↔
      entries'.map Participant.atRest = entries.map Participant.atRest := by
  have heq : entries.map Participant.atRest = entries'.map Participant.atRest ↔
      List.Forall₂ Eq (entries.map Participant.atRest) (entries'.map Participant.atRest) := by
    rw [List.forall₂_eq_eq_eq]
  rw [eq_comm, heq, List.forall₂_map_left_iff, List.forall₂_map_right_iff]
  simp only [eq_comm]

namespace Session

variable {s t : Session} {userId : String} {now : Instant}

/-- A session without cursors and marks of activity. -/
def atRest (s : Session) : Session :=
  { s with roster := s.roster.map Participant.atRest }

/-- Sessions are alike up to cursors and activity exactly if they are the same at rest. -/
theorem like_iff_atRest :
    s.Like (fun p q => q.atRest = p.atRest) (fun name => name) t ↔ t.atRest = s.atRest := by
  have hnames : ∀ changes : List Change, changes.map (Change.renamed fun name => name) = changes :=
    fun changes => List.map_id _
  constructor
  · rintro ⟨hroster⟩
    have hsame := Participant.forall₂_atRest_iff.mp hroster
    rw [hnames]
    exact congrArg (fun roster => { s with roster }) hsame
  · intro h
    have hroster := Participant.forall₂_atRest_iff.mpr (congrArg Session.roster h)
    have ht : t = { s with
        roster := t.roster
        history := s.history.map (Change.renamed fun name => name) } := by
      rw [hnames]
      exact congrArg (fun u : Session => { u with roster := t.roster }) h
    rw [ht]
    exact .intro hroster

theorem onlineCount_atRest (s : Session) : s.atRest.onlineCount = s.onlineCount :=
  List.countP_map

theorem participant?_atRest (s : Session) (userId : String) :
    s.atRest.participant? userId = (s.participant? userId).map Participant.atRest :=
  List.find?_map

theorem snapshot_atRest (s : Session) : s.atRest.snapshot = s.snapshot.atRest := by
  rw [snapshot, onlineCount_atRest]
  rfl

/-- The public listing shows nothing of cursors and activity. -/
theorem listing_atRest (s : Session) : s.atRest.listing = s.listing := by
  rw [listing, onlineCount_atRest, participant?_atRest, Option.elim_map]
  rfl

theorem isListed_atRest (s : Session) : s.atRest.isListed = s.isListed := by
  rw [isListed, onlineCount_atRest]
  rfl

theorem isIdle_atRest (s : Session) (now : Instant) (timeout : Int) :
    s.atRest.isIdle now timeout = s.isIdle now timeout := by
  rw [isIdle, onlineCount_atRest]
  rfl

/-- **A cursor that moves leaves the session as it is at rest.** -/
theorem atRest_moveCursor {s' : Session} {position : Nat} {entry : Participant}
    (h : s.moveCursor userId position now = .ok (entry, s')) : s'.atRest = s.atRest := by
  obtain ⟨-, -, rfl⟩ := moveCursor_ok h
  have hroster : (s.roster.map fun p => if p.userId = userId then
      { p with cursor := position }.touch now else p).map Participant.atRest =
        s.roster.map Participant.atRest := by
    rw [List.map_map]
    refine List.map_congr_left fun p _ => ?_
    dsimp only [Function.comp]
    split <;> rfl
  exact congrArg (fun roster => { s with roster }) hroster

end Session

end CoEdit

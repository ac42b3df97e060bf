import CoEdit.Proofs.Recording.Growth
import CoEdit.Proofs.Session.Sound
import Mathlib.Data.Finset.Basic

/-!
# What a Recording Says about a Session

A session can be outlined in two ways: from its state, and from its recording, by going through the
recorded facts in order. This module defines both outlines, and what it means that facts tell of a
session, so that the outlines come out the same.

## Main definitions

* `Outline`, `Session.outline`, `Recording.outline?`.
* `Participant.attendee`: a roster entry as the recording lists it.
* `Told`: facts tell of a state of a session.

## Main results

* `Told.outline?_eq`: where the facts tell of the session, the outlines agree.
* `noteAttendee_of_mem`, `noteAttendee_of_notMem`: what an arrival does to the list of attendees.
-/

namespace CoEdit

open CoEdit.Time (Instant)

/-! ### Reading facts -/

/-- The host, the title and the language that a creation tells of. -/
def Fact.terms? : Fact → Option (String × String × String)
  | .created hostId _ title language _ => some (hostId, title, language)
  | _ => none

/-- Who is online after a fact, given who was online before it. -/
def Fact.attend (online : Finset String) : Fact → Finset String
  | .joined userId _ _ => insert userId online
  | .left userId => online.erase userId
  | _ => online

/-- Whether a fact is that somebody joined. -/
def Fact.isJoin : Fact → Bool
  | .joined .. => true
  | _ => false

/-- Whether a fact is that the session ended. -/
def Fact.isEnd : Fact → Bool
  | .ended _ => true
  | _ => false

/-- Whether a fact is that somebody called for help. -/
def Fact.isCall : Fact → Bool
  | .helpRequested .. => true
  | _ => false

/-- The status that facts tell of: ended if an end is among them, else active if somebody joined. -/
def statusOf (facts : List Fact) : Status :=
  if facts.any Fact.isEnd then .ended else if facts.any Fact.isJoin then .active else .waiting

/-- An end ends the session. -/
theorem statusOf_append_of_end {facts added : List Fact} (h : added.any Fact.isEnd = true) :
    statusOf (facts ++ added) = .ended := by
  simp [statusOf, h]

/-- Facts of other kinds leave the status as it is. -/
theorem statusOf_append_of_neither {facts added : List Fact} (hend : added.any Fact.isEnd = false)
    (hjoin : added.any Fact.isJoin = false) : statusOf (facts ++ added) = statusOf facts := by
  simp [statusOf, hend, hjoin]

/-- Somebody's joining makes a session active that has not ended. -/
theorem statusOf_append_of_join {facts added : List Fact} (hopen : statusOf facts ≠ .ended)
    (hend : added.any Fact.isEnd = false) (hjoin : added.any Fact.isJoin = true) :
    statusOf (facts ++ added) = .active := by
  have hnone : facts.any Fact.isEnd = false := by
    by_contra hsome
    rw [Bool.not_eq_false] at hsome
    exact hopen (if_pos hsome)
  simp [statusOf, hnone, hend, hjoin]

/-! ### Outlines -/

/-- A session in outline. -/
structure Outline where
  hostId : String
  title : String
  language : String
  online : Finset String
  status : Status
  changeCount : Nat
  lecturerAssistance : Bool

/-- The outline of a state. -/
def Session.outline (s : Session) : Outline where
  hostId := s.hostId
  title := s.title
  language := s.language
  online := ((s.roster.filter (·.isOnline)).map Participant.userId).toFinset
  status := s.status
  changeCount := s.changeCount
  lecturerAssistance := s.lecturerAssistance

/-- The outline that a recording gives: first the host alone is online, then everybody who joins and
does not leave. Whether help was asked for at the creation is not on record. -/
def Recording.outline? (r : Recording) (assistance : Bool) : Option Outline :=
  (r.facts.findSome? Fact.terms?).map fun (hostId, title, language) =>
    { hostId, title, language
      online := r.facts.foldl Fact.attend {hostId}
      status := statusOf r.facts
      changeCount := r.changes.length
      lecturerAssistance := assistance || r.facts.any Fact.isCall }

/-- Facts tell of a state of a session. -/
structure Told (assistance : Bool) (facts : List Fact) (s : Session) : Prop where
  terms : facts.findSome? Fact.terms? = some (s.hostId, s.title, s.language)
  online : ∀ user, user ∈ facts.foldl Fact.attend {s.hostId} ↔ s.isOnline user = true
  status : statusOf facts = s.status
  changeCount : (facts.filterMap Fact.change?).length = s.changeCount
  lecturerAssistance : (assistance || facts.any Fact.isCall) = s.lecturerAssistance

/-- Where the facts of a recording tell of a session, the outlines agree. -/
theorem Told.outline?_eq {assistance : Bool} {r : Recording} {s : Session}
    (h : Told assistance r.facts s) (hd : s.DistinctEntries) :
    r.outline? assistance = some s.outline := by
  have honline : r.facts.foldl Fact.attend {s.hostId} = s.outline.online := by
    ext user
    rw [h.online, hd.exists_online_iff, Session.outline, List.mem_toFinset, List.mem_map]
    constructor
    · rintro ⟨p, hp, hid, hon⟩
      exact ⟨p, List.mem_filter.mpr ⟨hp, hon⟩, hid⟩
    · rintro ⟨p, hp, hid⟩
      exact ⟨p, (List.mem_filter.mp hp).1, hid, (List.mem_filter.mp hp).2⟩
  rw [Recording.outline?, h.terms, Option.map_some]
  simp only [honline, h.status, h.lecturerAssistance, Recording.changes_eq, h.changeCount]
  rfl

/-- More facts tell of a later state, if they tell of what has changed since. -/
theorem Told.append {assistance : Bool} {facts added : List Fact} {s s' : Session}
    (h : Told assistance facts s) (hterms : Session.SameTerms s s')
    (honline : ∀ user, user ∈ added.foldl Fact.attend (facts.foldl Fact.attend {s.hostId}) ↔
      s'.isOnline user = true)
    (hstatus : statusOf (facts ++ added) = s'.status)
    (hcount : s'.changeCount = s.changeCount + (added.filterMap Fact.change?).length)
    (hassistance : s'.lecturerAssistance = (s.lecturerAssistance || added.any Fact.isCall)) :
    Told assistance (facts ++ added) s' where
  terms := by
    rw [List.findSome?_append, h.terms, hterms.hostId, hterms.title, hterms.language]
    rfl
  online user := by
    rw [List.foldl_append, hterms.hostId]
    exact honline user
  status := hstatus
  changeCount := by rw [List.filterMap_append, List.length_append, h.changeCount, hcount]
  lecturerAssistance := by
    rw [List.any_append, ← Bool.or_assoc, h.lecturerAssistance, hassistance]

/-! ### Attendees -/

/-- A roster entry as the recording lists it, if the arrival is recorded at once. -/
def Participant.attendee (p : Participant) : Attendee :=
  ⟨p.userId, p.userName, p.role, p.joinedAt⟩

namespace Recording

variable {attendees : List Attendee} {userId userName : String} {role : Role} {time : Instant}

/-- Someone listed under the same name already is not listed again. -/
theorem noteAttendee_of_mem (hmem : userId ∈ attendees.map Attendee.userId)
    (hname : ∀ a ∈ attendees, a.userId = userId → a.userName = userName) :
    noteAttendee attendees userId userName role time = attendees := by
  have hany : attendees.any (·.userId = userId) = true := by
    obtain ⟨a, ha, hid⟩ := List.mem_map.mp hmem
    exact List.any_eq_true.mpr ⟨a, ha, by simpa using hid⟩
  rw [noteAttendee, if_pos hany]
  refine (List.map_congr_left fun a ha => ?_).trans (List.map_id attendees)
  split
  · next hid =>
    rw [← hname a ha hid]
    rfl
  · rfl

/-- A newcomer is listed at the end. -/
theorem noteAttendee_of_notMem (hmem : userId ∉ attendees.map Attendee.userId) :
    noteAttendee attendees userId userName role time =
      attendees ++ [⟨userId, userName, role, time⟩] := by
  have hany : ¬attendees.any (·.userId = userId) = true := by
    intro hsome
    obtain ⟨a, ha, hid⟩ := List.any_eq_true.mp hsome
    exact hmem (List.mem_map.mpr ⟨a, ha, by simpa using hid⟩)
  rw [noteAttendee, if_neg hany]

end Recording

end CoEdit

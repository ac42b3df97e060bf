import CoEdit.Proofs.Recording.Outline
import CoEdit.Proofs.Time.Elapsed
import CoEdit.Recording.Archive
import Mathlib.Data.String.Basic
import Mathlib.Order.Bounds.Basic

/-!
# What Is Put on Record

Facts about many sessions are submitted to one archive, with whatever times a clock gives for them.
Each recording keeps the facts of its session in the order in which they were submitted, and each
entry has the latest of the times submitted so far.

## Main definitions

* `Submission`, `Archive.ofSubmissions`: facts with their times, and the archive they lead to.
* `Recording.appearances`, `Recording.Lists`: the people who appear in entries, and a list of them.
* `Recording.Keeps`, `Recording.Logs`: a recording of what was submitted for its session.

## Main results

* `Recording.Keeps.push`: what a fact adds to a recording.
* `Archive.keeps_ofSubmissions`: the recordings do not get into each other's way.
* `Recording.Keeps.duration_neg_iff`: the one case in which a recording ends before it begins.
* `Archive.logs_submissions`: everything that is submitted is put on record, at any times.
-/

namespace CoEdit

open CoEdit.Time (Instant)

/-- A fact that is put on record, with the time that the clock gives for it. -/
structure Submission where
  sessionId : String
  fact : Fact
  time : Instant
  deriving DecidableEq, Repr

/-- Somebody's appearance, where an entry tells of one. -/
def Entry.appearance? (entry : Entry) : Option Attendee :=
  match entry.fact with
  | .created hostId hostName _ _ _ => some ⟨hostId, hostName, .host, entry.timestamp⟩
  | .joined userId userName role => some ⟨userId, userName, role, entry.timestamp⟩
  | _ => none

namespace Recording

variable {r : Recording} {sessionId : String} {own : List Submission} {c : Submission}

/-! ### Attendees -/

/-- Everybody's appearances in a recording, in order. -/
def appearances (r : Recording) : List Attendee :=
  r.entries.filterMap Entry.appearance?

/-- The first of somebody's appearances. -/
def firstOf (userId : String) (appearances : List Attendee) : Option Attendee :=
  appearances.find? (·.userId = userId)

/-- The latest of somebody's appearances. -/
def latestOf (userId : String) (appearances : List Attendee) : Option Attendee :=
  appearances.reverse.find? (·.userId = userId)

/-- The attendees are those who appear, each of them once, in the order in which they first do so.
Their role and their time are those of their first appearance, their name is that of their latest
one. -/
structure Lists (attendees appearances : List Attendee) : Prop where
  nodup : (attendees.map Attendee.userId).Nodup
  order : attendees.map Attendee.userId = (appearances.map Attendee.userId).eraseDups
  each : ∀ a ∈ attendees, ∃ first latest,
    firstOf a.userId appearances = some first ∧ latestOf a.userId appearances = some latest ∧
      a.role = first.role ∧ a.firstSeen = first.firstSeen ∧ a.userName = latest.userName

section Lists

variable {attendees appearances : List Attendee} {a first : Attendee} {userId : String}

/-- Whoever has appeared before does not appear for the first time. -/
theorem firstOf_concat_of_some (h : firstOf userId appearances = some first) (a : Attendee) :
    firstOf userId (appearances ++ [a]) = some first := by
  rw [firstOf] at h ⊢
  rw [List.find?_append, h, Option.some_or]

theorem firstOf_concat_self (h : ∀ b ∈ appearances, b.userId ≠ a.userId) :
    firstOf a.userId (appearances ++ [a]) = some a := by
  have hnone : appearances.find? (·.userId = a.userId) = none := by
    rw [List.find?_eq_none]
    simpa using h
  rw [firstOf, List.find?_append, hnone, Option.none_or]
  exact List.find?_cons_of_pos (decide_eq_true rfl)

theorem latestOf_concat (userId : String) (appearances : List Attendee) (a : Attendee) :
    latestOf userId (appearances ++ [a]) =
      if a.userId = userId then some a else latestOf userId appearances := by
  rw [latestOf, List.reverse_append, List.reverse_singleton, List.singleton_append]
  split
  · next h => exact List.find?_cons_of_pos (decide_eq_true h)
  · next h => exact List.find?_cons_of_neg (by simpa using h)

/-- Those who are listed are those who have appeared. -/
theorem Lists.mem_iff (h : Lists attendees appearances) (userId : String) :
    userId ∈ attendees.map Attendee.userId ↔ userId ∈ appearances.map Attendee.userId := by
  rw [h.order, List.mem_eraseDups]

/-- Somebody listed only takes a new name. -/
theorem Lists.noteAttendee_of_mem (h : Lists attendees appearances)
    (hmem : a.userId ∈ attendees.map Attendee.userId) :
    Lists (noteAttendee attendees a.userId a.userName a.role a.firstSeen)
      (appearances ++ [a]) := by
  have hany : attendees.any (·.userId = a.userId) = true := by
    obtain ⟨b, hb, hid⟩ := List.mem_map.mp hmem
    exact List.any_eq_true.mpr ⟨b, hb, decide_eq_true hid⟩
  have hids : (noteAttendee attendees a.userId a.userName a.role a.firstSeen).map
      Attendee.userId = attendees.map Attendee.userId := by
    rw [noteAttendee, if_pos hany, List.map_map]
    refine List.map_congr_left fun b _ => ?_
    rw [Function.comp_apply]
    split <;> rfl
  refine ⟨hids ▸ h.nodup, ?_, ?_⟩
  · have hold : [a.userId].removeAll (appearances.map Attendee.userId) = [] := by
      rw [List.removeAll, List.filter_eq_nil_iff]
      simpa using List.mem_map.mp ((h.mem_iff a.userId).mp hmem)
    rw [hids, h.order, List.map_append, List.map_singleton, List.eraseDups_append, hold,
      List.eraseDups_nil, List.append_nil]
  · intro b hb
    rw [noteAttendee, if_pos hany] at hb
    obtain ⟨b, hold, rfl⟩ := List.mem_map.mp hb
    obtain ⟨first, latest, hfirst, hlatest, hrole, hseen, hname⟩ := h.each b hold
    -- The name is that of this appearance where it is theirs, and that of an earlier one elsewhere.
    by_cases hid : b.userId = a.userId
    · rw [if_pos hid]
      refine ⟨first, a, firstOf_concat_of_some hfirst a, ?_, hrole, hseen, rfl⟩
      rw [latestOf_concat, if_pos hid.symm]
    · rw [if_neg hid]
      refine ⟨first, latest, firstOf_concat_of_some hfirst a, ?_, hrole, hseen, hname⟩
      rw [latestOf_concat, if_neg (Ne.symm hid), hlatest]

/-- Somebody new is listed at the end. -/
theorem Lists.noteAttendee_of_notMem (h : Lists attendees appearances)
    (hmem : a.userId ∉ attendees.map Attendee.userId) :
    Lists (noteAttendee attendees a.userId a.userName a.role a.firstSeen)
      (appearances ++ [a]) := by
  have hnew : ∀ b ∈ appearances, b.userId ≠ a.userId := fun b hb hid =>
    hmem ((h.mem_iff a.userId).mpr (List.mem_map.mpr ⟨b, hb, hid⟩))
  rw [Recording.noteAttendee_of_notMem hmem]
  refine ⟨?_, ?_, ?_⟩
  · rw [List.map_append, List.nodup_append]
    refine ⟨h.nodup, List.nodup_singleton _, ?_⟩
    rintro _ hold _ hlast rfl
    rw [List.map_singleton, List.mem_singleton] at hlast
    exact hmem (hlast ▸ hold)
  · have hkept : [a.userId].removeAll (appearances.map Attendee.userId) = [a.userId] := by
      rw [List.removeAll, List.filter_eq_self]
      simpa using hnew
    rw [List.map_append, List.map_append, List.eraseDups_append, h.order, List.map_singleton,
      hkept]
    rfl
  · intro b hb
    rcases List.mem_append.mp hb with hold | hlast
    · obtain ⟨first, latest, hfirst, hlatest, hrest⟩ := h.each b hold
      have hid : a.userId ≠ b.userId := fun heq => hmem (heq ▸ List.mem_map_of_mem hold)
      refine ⟨first, latest, firstOf_concat_of_some hfirst a, ?_, hrest⟩
      rw [latestOf_concat, if_neg hid, hlatest]
    · obtain rfl := List.mem_singleton.mp hlast
      refine ⟨a, a, firstOf_concat_self hnew, ?_, rfl, rfl, rfl⟩
      rw [latestOf_concat, if_pos rfl]

/-- **One more appearance** changes the name of somebody listed, or adds somebody to the list. -/
theorem Lists.noteAttendee (h : Lists attendees appearances) (a : Attendee) :
    Lists (noteAttendee attendees a.userId a.userName a.role a.firstSeen)
      (appearances ++ [a]) := by
  by_cases hmem : a.userId ∈ attendees.map Attendee.userId
  · exact h.noteAttendee_of_mem hmem
  · exact h.noteAttendee_of_notMem hmem

end Lists

/-! ### Entries -/

/-- The recording keeps what was submitted for its session, in the order in which it was submitted.
The time of each entry is the greatest of those submitted so far. -/
structure Keeps (r : Recording) (sessionId : String) (own : List Submission) : Prop where
  sessionId : r.sessionId = sessionId
  facts : r.entries.map (·.fact) = own.map (·.fact)
  numbered : ∀ (i : Nat) (entry : Entry), r.entries[i]? = some entry → entry.sequence = i
  greatest : ∀ (i : Nat) (entry : Entry), r.entries[i]? = some entry →
    IsGreatest {t | ∃ c ∈ own.take (i + 1), c.time = t} entry.timestamp
  attendees : Lists r.attendees r.appearances

theorem keeps_empty (sessionId : String) : (empty sessionId).Keeps sessionId [] where
  sessionId := rfl
  facts := rfl
  numbered _ _ h := by cases h
  greatest _ _ h := by cases h
  attendees := ⟨List.nodup_nil, rfl, nofun⟩

theorem Keeps.length_eq (h : r.Keeps sessionId own) : r.entries.length = own.length := by
  simpa using congrArg List.length h.facts

/-- The last entry has the greatest of all times. -/
theorem Keeps.isGreatest_lastTime (h : r.Keeps sessionId own) {last : Instant}
    (hlast : r.lastTime = some last) : IsGreatest {t | ∃ c ∈ own, c.time = t} last := by
  obtain ⟨entry, hentry, rfl⟩ := Option.map_eq_some_iff.mp hlast
  rw [List.getLast?_eq_getElem?] at hentry
  have hgreatest := h.greatest _ entry hentry
  obtain ⟨hlt, -⟩ := List.getElem?_eq_some_iff.mp hentry
  have hall : own.take (r.entries.length - 1 + 1) = own :=
    List.take_of_length_le (by rw [← h.length_eq]; omega)
  rwa [hall] at hgreatest

/-- The time of a new entry is the greatest of all times, its own included. -/
theorem Keeps.isGreatest_atOrAfter (h : r.Keeps sessionId own) (c : Submission) :
    IsGreatest {t | ∃ c' ∈ own ++ [c], c'.time = t} (atOrAfter r.lastTime c.time) := by
  have hinsert : {t | ∃ c' ∈ own ++ [c], c'.time = t} =
      insert c.time {t | ∃ c' ∈ own, c'.time = t} := by
    ext t
    simp [or_and_right, exists_or, or_comm, eq_comm]
  rw [hinsert]
  cases hlast : r.lastTime with
  | none =>
      have hnil : own = [] := by
        rw [lastTime, Option.map_eq_none_iff, List.getLast?_eq_none_iff] at hlast
        rw [← List.length_eq_zero_iff, ← h.length_eq, hlast, List.length_nil]
      subst hnil
      simp [atOrAfter]
  | some last =>
      rw [atOrAfter_some, max_comm]
      exact (h.isGreatest_lastTime hlast).insert c.time

/-- An entry among those of a recording with one more fact is an old one, or the new one. -/
theorem getElem?_entries_push {fact : Fact} {time : Instant} {i : Nat} {entry : Entry}
    (h : (r.push fact time).2.entries[i]? = some entry) :
    r.entries[i]? = some entry ∨
      (i = r.entries.length ∧ entry = (r.push fact time).1) := by
  change (r.entries ++ [(r.push fact time).1])[i]? = some entry at h
  rcases lt_or_ge i r.entries.length with hlt | hge
  · rw [List.getElem?_append_left hlt] at h
    exact .inl h
  · rw [List.getElem?_append_right hge, List.getElem?_singleton] at h
    split at h
    · exact .inr ⟨by omega, (Option.some.inj h).symm⟩
    · cases h

/-- What a new entry tells of is noted. -/
theorem attendees_push (r : Recording) (fact : Fact) (time : Instant) :
    (r.push fact time).2.attendees = match (r.push fact time).1.appearance? with
      | some a => noteAttendee r.attendees a.userId a.userName a.role a.firstSeen
      | none => r.attendees := by
  cases fact <;> rfl

theorem appearances_push (r : Recording) (fact : Fact) (time : Instant) :
    (r.push fact time).2.appearances =
      r.appearances ++ (r.push fact time).1.appearance?.toList := by
  change (r.entries ++ [(r.push fact time).1]).filterMap Entry.appearance? = _
  rw [List.filterMap_append, List.filterMap_cons, List.filterMap_nil]
  cases (r.push fact time).1.appearance? with
  | none => rfl
  | some a => rfl

/-- **Whatever is pushed is kept.** -/
theorem Keeps.push (h : r.Keeps sessionId own) (c : Submission) :
    (r.push c.fact c.time).2.Keeps sessionId (own ++ [c]) where
  sessionId := h.sessionId
  facts := by
    change (r.push c.fact c.time).2.facts = _
    rw [facts_push, List.map_append, ← h.facts]
    rfl
  numbered i entry hentry := by
    rcases getElem?_entries_push hentry with hold | ⟨rfl, rfl⟩
    · exact h.numbered i entry hold
    · rfl
  greatest i entry hentry := by
    rcases getElem?_entries_push hentry with hold | ⟨rfl, rfl⟩
    · obtain ⟨hlt, -⟩ := List.getElem?_eq_some_iff.mp hold
      rw [List.take_append_of_le_length (by rw [← h.length_eq]; omega)]
      exact h.greatest i entry hold
    · rw [h.length_eq, List.take_of_length_le (by simp)]
      exact h.isGreatest_atOrAfter c
  attendees := by
    rw [attendees_push, appearances_push]
    cases (r.push c.fact c.time).1.appearance? with
    | none =>
        rw [Option.toList_none, List.append_nil]
        exact h.attendees
    | some a => exact h.attendees.noteAttendee a

/-- The times of the entries do not go back. -/
theorem Keeps.pairwise_timestamp (h : r.Keeps sessionId own) :
    r.entries.Pairwise fun a b => a.timestamp ≤ b.timestamp := by
  rw [List.pairwise_iff_getElem]
  intro i j hi hj hij
  obtain ⟨c, hc, htime⟩ := (h.greatest i _ (List.getElem?_eq_getElem hi)).1
  rw [← htime]
  refine (h.greatest j _ (List.getElem?_eq_getElem hj)).2 ⟨c, ?_, rfl⟩
  exact (List.take_prefix_take_left (by omega)).subset hc

/-- Nor are they later than they have to be: they are no later than any times that do not go back
and are no earlier than those submitted. -/
theorem Keeps.timestamp_le (h : r.Keeps sessionId own) {times : Nat → Instant}
    (hmono : Monotone times)
    (htimes : ∀ (i : Nat) (c : Submission), own[i]? = some c → c.time ≤ times i) {i : Nat}
    {entry : Entry} (hentry : r.entries[i]? = some entry) : entry.timestamp ≤ times i := by
  obtain ⟨c, hc, htime⟩ := (h.greatest i entry hentry).1
  obtain ⟨j, hj⟩ := List.mem_iff_getElem?.mp hc
  rw [List.getElem?_take] at hj
  split at hj
  · next hlt =>
    rw [← htime]
    exact (htimes j c hj).trans (hmono (by omega))
  · cases hj

/-- The times of the entries are among those submitted. -/
theorem Keeps.onClock (h : r.Keeps sessionId own) (hclock : ∀ c ∈ own, c.time.OnClock)
    {entry : Entry} (hentry : entry ∈ r.entries) : entry.timestamp.OnClock := by
  obtain ⟨i, hi⟩ := List.mem_iff_getElem?.mp hentry
  obtain ⟨c, hc, htime⟩ := (h.greatest i entry hi).1
  exact htime ▸ hclock c (List.mem_of_mem_take hc)

/-- **A recording ends before it begins** only if it begins in a leap second at the end of a day,
and ends within the first second of the next day. -/
theorem Keeps.duration_neg_iff (h : r.Keeps sessionId own) (hclock : ∀ c ∈ own, c.time.OnClock)
    {first last : Entry} (hfirst : r.entries.head? = some first)
    (hlast : r.entries.getLast? = some last) :
    r.duration < 0 ↔ first.timestamp.LeapsInto last.timestamp := by
  have hle : first.timestamp ≤ last.timestamp := by
    have hpairwise := h.pairwise_timestamp
    obtain ⟨rest, hrest⟩ := List.head?_eq_some_iff.mp hfirst
    rw [hrest, List.pairwise_cons] at hpairwise
    rcases List.mem_cons.mp (hrest ▸ List.mem_of_getLast? hlast) with rfl | hmem
    · exact le_rfl
    · exact hpairwise.1 last hmem
  rw [duration, hfirst, hlast]
  exact Instant.since_neg_iff (h.onClock hclock (List.mem_of_mem_head? hfirst))
    (h.onClock hclock (List.mem_of_getLast? hlast)) hle

/-- The recording is a log of what was submitted for its session, and of nothing else. -/
structure Logs (r : Recording) (sessionId : String) (own : List Submission) : Prop
    extends r.Keeps sessionId own where
  /-- The times do not go back. -/
  ascending : r.entries.Pairwise fun a b => a.timestamp ≤ b.timestamp
  /-- They are the earliest ones that do not, and are no earlier than those submitted. -/
  earliest : ∀ times : Nat → Instant, Monotone times →
    (∀ (i : Nat) (c : Submission), own[i]? = some c → c.time ≤ times i) →
      ∀ (i : Nat) (entry : Entry), r.entries[i]? = some entry → entry.timestamp ≤ times i
  /-- The recording does not end before it begins, unless a day ends with a leap second. -/
  duration : (∀ c ∈ own, c.time.OnClock) → ∀ first last : Entry,
    r.entries.head? = some first → r.entries.getLast? = some last →
      (r.duration < 0 ↔ first.timestamp.LeapsInto last.timestamp)

theorem Keeps.logs (h : r.Keeps sessionId own) : r.Logs sessionId own where
  toKeeps := h
  ascending := h.pairwise_timestamp
  earliest _ hmono htimes _ _ hentry := h.timestamp_le hmono htimes hentry
  duration hclock _ _ hfirst hlast := h.duration_neg_iff hclock hfirst hlast

end Recording

/-! ### The archive -/

namespace Archive

/-- The archive after some submissions, the first one first. -/
def ofSubmissions (submissions : List Submission) : Archive :=
  submissions.foldl (fun a c => (a.record c.sessionId c.fact c.time).2) empty

theorem ofSubmissions_concat (submissions : List Submission) (c : Submission) :
    ofSubmissions (submissions ++ [c]) =
      ((ofSubmissions submissions).record c.sessionId c.fact c.time).2 := by
  rw [ofSubmissions, List.foldl_append]
  rfl

theorem get?_record (a : Archive) (c : Submission) (sessionId : String) :
    (a.record c.sessionId c.fact c.time).2.get? sessionId =
      if sessionId = c.sessionId then
        some (((a.get? c.sessionId).getD (.empty c.sessionId)).push c.fact c.time).2
      else a.get? sessionId :=
  Table.get?_put _ _ _ _

/-- Each recording keeps what was submitted for its session, and there is one only if anything
was. -/
theorem keeps_ofSubmissions (submissions : List Submission) (sessionId : String) :
    match (ofSubmissions submissions).get? sessionId with
    | none => submissions.filter (·.sessionId = sessionId) = []
    | some r => submissions.filter (·.sessionId = sessionId) ≠ [] ∧
        r.Keeps sessionId (submissions.filter (·.sessionId = sessionId)) := by
  -- The latest submission is pushed to the recording of its session, which begins with it if there
  -- is none yet, and is nothing to the others.
  induction submissions using List.reverseRecOn with
  | nil => rfl
  | append_singleton submissions c ih =>
      rw [ofSubmissions_concat, get?_record, List.filter_append]
      by_cases hid : sessionId = c.sessionId
      · subst hid
        have hself : [c].filter (·.sessionId = c.sessionId) = [c] := by simp
        rw [if_pos rfl, hself]
        refine ⟨List.append_ne_nil_of_right_ne_nil _ (List.cons_ne_nil _ _), .push ?_ c⟩
        cases hget : (ofSubmissions submissions).get? c.sessionId with
        | none =>
            rw [hget] at ih
            rw [ih]
            exact Recording.keeps_empty c.sessionId
        | some r =>
            rw [hget] at ih
            exact ih.2
      · have hother : [c].filter (·.sessionId = sessionId) = [] := by simpa using Ne.symm hid
        rw [if_neg hid, hother, List.append_nil]
        exact ih

theorem mem_sessionIds_iff (a : Archive) (sessionId : String) :
    sessionId ∈ a.sessionIds ↔ a.get? sessionId ≠ none := by
  rw [sessionIds, List.mem_mergeSort, Table.keys, List.mem_map, Option.ne_none_iff_exists']
  constructor
  · rintro ⟨⟨_, r⟩, hmem, rfl⟩
    exact ⟨r, Table.mem_entries_iff.mp hmem⟩
  · rintro ⟨r, hget⟩
    exact ⟨(sessionId, r), Table.mem_entries_iff.mpr hget, rfl⟩

theorem pairwise_sessionIds (a : Archive) : a.sessionIds.Pairwise (· < ·) := by
  have hsorted : a.sessionIds.Pairwise (· ≤ ·) := by
    refine (List.pairwise_mergeSort ?_ ?_ _).imp of_decide_eq_true
    · intro x y z hxy hyz
      rw [decide_eq_true_eq] at hxy hyz ⊢
      exact le_trans hxy hyz
    · intro x y
      rw [Bool.or_eq_true, decide_eq_true_eq, decide_eq_true_eq]
      exact le_total x y
  have hnodup : a.sessionIds.Nodup := (List.mergeSort_perm _ _).nodup_iff.mpr a.recordings.nodup
  exact hsorted.imp₂ (fun _ _ hle hne => lt_of_le_of_ne hle hne) hnodup

/-- **Everything that is submitted is put on record**, whatever the clock says: for each session
exactly what was submitted for it, and in ascending order the sessions for which anything was. -/
theorem logs_submissions (submissions : List Submission) :
    (∀ sessionId, match (ofSubmissions submissions).get? sessionId with
      | none => submissions.filter (·.sessionId = sessionId) = []
      | some r => submissions.filter (·.sessionId = sessionId) ≠ [] ∧
          r.Logs sessionId (submissions.filter (·.sessionId = sessionId))) ∧
      (ofSubmissions submissions).sessionIds.Pairwise (· < ·) ∧
      ∀ sessionId, sessionId ∈ (ofSubmissions submissions).sessionIds ↔
        ∃ c ∈ submissions, c.sessionId = sessionId := by
  have hkeeps := keeps_ofSubmissions submissions
  refine ⟨fun sessionId => ?_, pairwise_sessionIds _, fun sessionId => ?_⟩
  · specialize hkeeps sessionId
    cases hget : (ofSubmissions submissions).get? sessionId with
    | none =>
        rw [hget] at hkeeps
        exact hkeeps
    | some r =>
        rw [hget] at hkeeps
        exact ⟨hkeeps.1, hkeeps.2.logs⟩
  · have hown : submissions.filter (·.sessionId = sessionId) ≠ [] ↔
        ∃ c ∈ submissions, c.sessionId = sessionId := by
      simp [List.filter_eq_nil_iff]
    rw [mem_sessionIds_iff, ← hown]
    specialize hkeeps sessionId
    cases hget : (ofSubmissions submissions).get? sessionId with
    | none =>
        rw [hget] at hkeeps
        simpa using hkeeps
    | some r =>
        rw [hget] at hkeeps
        exact iff_of_true nofun hkeeps.1

/-- The clock is put back before Ann joins again, under another name and in another role. -/
example :
    let a := ofSubmissions [⟨"s", .joined "a" "Ann" .participant, ⟨9, 0⟩⟩,
      ⟨"t", .left "b", ⟨1, 0⟩⟩, ⟨"s", .joined "a" "Anna" .lecturer, ⟨5, 0⟩⟩]
    (a.get? "s").map (·.entries.map (·.timestamp)) = some [⟨9, 0⟩, ⟨9, 0⟩] ∧
      (a.get? "s").map (·.attendees) = some [⟨"a", "Anna", .participant, ⟨9, 0⟩⟩] := by
  decide +kernel

/-- Two departures, one in the leap second at the end of 2016 and one at the beginning of 2017. -/
def overNewYear : List Submission :=
  [⟨"s", .left "u", ⟨1483228799, 1500000000⟩⟩, ⟨"s", .left "u", ⟨1483228800, 0⟩⟩]

/-- The recording of these two ends half a second before it begins, although the times of its
entries do not go back. -/
theorem duration_not_always_nonneg :
    ¬∀ (submissions : List Submission) (sessionId : String) (r : Recording),
      (∀ c ∈ submissions, c.time.OnClock) →
        (ofSubmissions submissions).get? sessionId = some r → 0 ≤ r.duration := by
  intro h
  have hnonneg := h overNewYear "s" _ (by decide) rfl
  exact absurd hnonneg (by decide)

end Archive

end CoEdit

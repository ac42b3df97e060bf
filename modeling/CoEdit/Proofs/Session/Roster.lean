import CoEdit.Session.Transitions
import Mathlib.Data.List.Perm.Subperm

/-!
# Who Is Online

What the changes of a roster do to the look-ups `participant?` and `isOnline`, and to the number of
people online.

## Main results

* `participant?_updateEntry`, `participant?_seat`: the entry of every user after a change of one
  entry, and after someone has been seated.
* `isOnline_seat_iff`, `isOnline_offline_iff`: who is online after an arrival and a departure.
* `DistinctEntries.exists_online_iff`: on a roster without repeated ids, being online means having
  an entry that is online.
* `one_lt_onlineCount`, `DistinctEntries.onlineCount_le_one`: two different users online make a
  count of two at least, and one user a count of one at most.
-/

namespace CoEdit.Session

open CoEdit.Time (Instant)

variable {s : Session} {userId other userName : String} {role : Role} {now : Instant}
  {f : Participant → Participant}

/-- No user has two entries on the roster. -/
def DistinctEntries (s : Session) : Prop :=
  (s.roster.map Participant.userId).Nodup

/-! ### Look-ups -/

/-- The entry that a look-up finds is on the roster under the user's id. -/
theorem mem_of_participant? {p : Participant} (h : s.participant? userId = some p) :
    p ∈ s.roster ∧ p.userId = userId := by
  refine ⟨List.mem_of_find?_eq_some h, ?_⟩
  simpa using List.find?_some h

/-- Without repeated ids, every entry is the one that the look-up of its id finds. -/
theorem DistinctEntries.participant?_of_mem (hd : s.DistinctEntries) {p : Participant}
    (hp : p ∈ s.roster) : s.participant? p.userId = some p := by
  rw [DistinctEntries] at hd
  rw [participant?]
  generalize s.roster = roster at hd hp
  induction roster with
  | nil => cases hp
  | cons q rest ih =>
      rw [List.map_cons, List.nodup_cons] at hd
      rcases List.mem_cons.mp hp with rfl | hrest
      · simp
      · have hne : q.userId ≠ p.userId := fun heq => hd.1 (heq ▸ List.mem_map_of_mem hrest)
        rw [List.find?_cons_of_neg (by simpa using hne)]
        exact ih hd.2 hrest

/-- Who is not on the roster has no entry there. -/
theorem participant?_eq_none_iff :
    s.participant? userId = none ↔ userId ∉ s.roster.map Participant.userId := by
  simp [participant?, List.find?_eq_none]

theorem isOnline_iff :
    s.isOnline userId = true ↔ ∃ p, s.participant? userId = some p ∧ p.isOnline = true := by
  rw [isOnline]
  cases s.participant? userId <;> simp

/-- Being online is having an entry that is online, if no user has two. -/
theorem DistinctEntries.exists_online_iff (hd : s.DistinctEntries) :
    s.isOnline userId = true ↔
      ∃ p ∈ s.roster, p.userId = userId ∧ p.isOnline = true := by
  rw [isOnline_iff]
  constructor
  · rintro ⟨p, hp, hon⟩
    obtain ⟨hmem, hid⟩ := mem_of_participant? hp
    exact ⟨p, hmem, hid, hon⟩
  · rintro ⟨p, hmem, rfl, hon⟩
    exact ⟨p, hd.participant?_of_mem hmem, hon⟩

/-- Look-ups depend on the roster alone. -/
theorem participant?_congr {t : Session} (h : t.roster = s.roster) (userId : String) :
    t.participant? userId = s.participant? userId := by
  rw [participant?, participant?, h]

theorem isOnline_congr {t : Session} (h : t.roster = s.roster) (userId : String) :
    t.isOnline userId = s.isOnline userId := by
  rw [isOnline, isOnline, participant?_congr h]

/-- Who is not on the roster is not online. -/
theorem isOnline_of_none (h : s.participant? userId = none) : s.isOnline userId = false := by
  rw [isOnline, h]
  rfl

/-! ### Changing one entry -/

/-- A change of one user's entry is seen by the look-up of this user alone. -/
theorem participant?_updateEntry (hf : ∀ p, (f p).userId = p.userId) :
    (s.updateEntry userId f).participant? other =
      if other = userId then (s.participant? other).map f else s.participant? other := by
  simp only [participant?, updateEntry]
  induction s.roster with
  | nil => simp
  | cons p rest ih =>
      rw [List.map_cons, List.find?_cons, List.find?_cons, ih]
      by_cases hp : p.userId = userId <;> by_cases ho : p.userId = other <;>
        by_cases hu : other = userId <;> simp_all

/-- The ids on a roster, in order, outlast a change of one entry. -/
theorem map_userId_updateEntry (hf : ∀ p, (f p).userId = p.userId) :
    (s.updateEntry userId f).roster.map Participant.userId =
      s.roster.map Participant.userId := by
  simp only [updateEntry, List.map_map]
  refine List.map_congr_left fun p _ => ?_
  by_cases hp : p.userId = userId <;> simp [hp, hf]

/-- A change that leaves the presence of the entry alone leaves everybody's presence alone. -/
theorem isOnline_updateEntry (hf : ∀ p, (f p).userId = p.userId)
    (hon : ∀ p, (f p).isOnline = p.isOnline) :
    (s.updateEntry userId f).isOnline other = s.isOnline other := by
  rw [isOnline, isOnline, participant?_updateEntry hf]
  by_cases ho : other = userId
  · cases h : s.participant? other <;> simp [ho, hon]
  · simp [ho]

/-- Activity changes neither the id of an entry nor its presence. -/
theorem userId_touch (p : Participant) (now : Instant) : (p.touch now).userId = p.userId := rfl

theorem isOnline_touch (p : Participant) (now : Instant) : (p.touch now).isOnline = p.isOnline :=
  rfl

/-- The session with a user set offline. -/
def offline (s : Session) (userId : String) (now : Instant) : Session :=
  s.updateEntry userId fun p => { p with isOnline := false }.touch now

/-- Going keeps the id of an entry. -/
theorem userId_offline (now : Instant) (p : Participant) :
    ({ p with isOnline := false }.touch now).userId = p.userId := rfl

/-- Setting a user offline takes this user, and nobody else, out of those online. -/
theorem isOnline_offline_iff :
    (s.offline userId now).isOnline other = true ↔ s.isOnline other = true ∧ other ≠ userId := by
  rw [isOnline, isOnline, offline, participant?_updateEntry (userId_offline now)]
  by_cases ho : other = userId
  · cases h : s.participant? other <;> simp [ho, Participant.touch]
  · simp [ho]

/-! ### Seating -/

/-- Someone on the roster already is only marked as online. -/
theorem seat_of_some {entry : Participant} (h : s.participant? userId = some entry) :
    s.seat userId userName role now =
      s.updateEntry userId fun p => { p.touch now with isOnline := true } := by
  simp only [seat, h]

/-- A newcomer gets an entry at the end of the roster. -/
theorem seat_of_none (h : s.participant? userId = none) :
    s.seat userId userName role now =
      { s with
        roster := s.roster ++
          [Participant.enter userId userName role.onJoining (colorAt s.roster.length) now] } := by
  simp only [seat, h]

/-- Coming back keeps the id of an entry. -/
theorem userId_online (now : Instant) (p : Participant) :
    ({ p.touch now with isOnline := true } : Participant).userId = p.userId := rfl

/-- Seating changes the roster alone. -/
theorem seat_eq : s.seat userId userName role now =
    { s with roster := (s.seat userId userName role now).roster } := by
  cases h : s.participant? userId with
  | none => rw [seat_of_none h]
  | some entry => rw [seat_of_some h]; rfl

/-- After seating, the user has an entry that is online: the old one, with its name and role, or a
new one. Nobody else's entry changes. -/
theorem participant?_seat :
    (s.seat userId userName role now).participant? other =
      if other = userId then
        some ((s.participant? userId).elim
          (Participant.enter userId userName role.onJoining (colorAt s.roster.length) now)
          fun p => { p.touch now with isOnline := true })
      else s.participant? other := by
  cases h : s.participant? userId with
  | none =>
      rw [seat_of_none h]
      simp only [participant?, List.find?_append] at h ⊢
      by_cases ho : other = userId
      · subst ho; simp [h, Participant.enter]
      · simp [ho, Participant.enter, Ne.symm ho]
  | some entry =>
      rw [seat_of_some h, participant?_updateEntry (userId_online now)]
      by_cases ho : other = userId <;> simp [ho, h]

/-- Seating adds the user to those online. -/
theorem isOnline_seat_iff :
    (s.seat userId userName role now).isOnline other = true ↔
      s.isOnline other = true ∨ other = userId := by
  rw [isOnline, isOnline, participant?_seat]
  by_cases ho : other = userId
  · cases h : s.participant? userId <;> simp [ho, Participant.enter]
  · simp [ho]

/-- Whoever is on the roster after a seating was there before or has been seated. -/
theorem mem_ids_seat (h : other ∈ (s.seat userId userName role now).roster.map Participant.userId) :
    other ∈ s.roster.map Participant.userId ∨ other = userId := by
  by_contra hnone
  obtain ⟨hnot, hne⟩ := not_or.mp hnone
  refine absurd h (participant?_eq_none_iff.mp ?_)
  rw [participant?_seat, if_neg hne]
  exact participant?_eq_none_iff.mpr hnot

/-- Seating keeps the ids distinct. -/
theorem DistinctEntries.seat (hd : s.DistinctEntries) :
    (s.seat userId userName role now).DistinctEntries := by
  cases h : s.participant? userId with
  | none =>
      rw [seat_of_none h, DistinctEntries, List.map_append, List.nodup_append]
      refine ⟨hd, by simp, ?_⟩
      rintro a ha b hb rfl
      obtain rfl : a = userId := by simpa [Participant.enter] using hb
      exact participant?_eq_none_iff.mp h ha
  | some entry =>
      rw [seat_of_some h, DistinctEntries, map_userId_updateEntry (userId_online now)]
      exact hd

/-! ### The start -/

/-- At the start the host is online and nobody else. -/
theorem isOnline_start_iff {id hostId hostName assignmentId : String}
    {settings : SessionSettings} :
    (start id hostId hostName assignmentId settings now).isOnline other = true ↔
      other = hostId := by
  by_cases ho : hostId = other
  · simp [isOnline, participant?, start, Participant.enter, ho]
  · simp [isOnline, participant?, start, Participant.enter, ho, Ne.symm ho]

/-! ### Counting -/

/-- A roster on which somebody is online counts one of them at least. -/
theorem onlineCount_pos (h : s.isOnline userId = true) : 0 < s.onlineCount := by
  obtain ⟨p, hp, hon⟩ := isOnline_iff.mp h
  exact List.countP_pos_iff.mpr ⟨p, (mem_of_participant? hp).1, hon⟩

/-- A roster on which two different users are online counts two of them at least. -/
theorem one_lt_onlineCount (hu : s.isOnline userId = true) (ho : s.isOnline other = true)
    (hne : userId ≠ other) : 1 < s.onlineCount := by
  obtain ⟨p, hp, hpon⟩ := isOnline_iff.mp hu
  obtain ⟨q, hq, hqon⟩ := isOnline_iff.mp ho
  obtain ⟨hpmem, hpid⟩ := mem_of_participant? hp
  obtain ⟨hqmem, hqid⟩ := mem_of_participant? hq
  have hpq : p ≠ q := by
    rintro rfl
    exact hne (hpid.symm.trans hqid)
  have hsub : [p, q] ⊆ s.roster.filter (·.isOnline) :=
    List.cons_subset.mpr ⟨List.mem_filter.mpr ⟨hpmem, hpon⟩,
      List.cons_subset.mpr ⟨List.mem_filter.mpr ⟨hqmem, hqon⟩, List.nil_subset _⟩⟩
  have hlen := (List.subperm_of_subset (by simpa using hpq) hsub).length_le
  rw [onlineCount, List.countP_eq_length_filter]
  exact hlen

/-- A roster on which one user at most is online counts one of them at most. -/
theorem DistinctEntries.onlineCount_le_one (hd : s.DistinctEntries)
    (h : ∀ user, s.isOnline user = true → user = userId) : s.onlineCount ≤ 1 := by
  have hnodup : ((s.roster.filter (·.isOnline)).map Participant.userId).Nodup :=
    (List.filter_sublist.map Participant.userId).nodup hd
  have hsub : (s.roster.filter (·.isOnline)).map Participant.userId ⊆ [userId] := by
    intro user huser
    obtain ⟨p, hp, rfl⟩ := List.mem_map.mp huser
    obtain ⟨hmem, hon⟩ := List.mem_filter.mp hp
    exact List.mem_singleton.mpr (h p.userId (hd.exists_online_iff.mpr ⟨p, hmem, rfl, hon⟩))
  have hlen := (List.subperm_of_subset hnodup hsub).length_le
  rw [List.length_map] at hlen
  rw [onlineCount, List.countP_eq_length_filter]
  exact hlen

end CoEdit.Session

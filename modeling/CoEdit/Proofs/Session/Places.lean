import CoEdit.Proofs.Session.LifeCycle

/-!
# Places

A session has so many places, and everybody who is online takes one, lecturers excepted. Whoever
comes in while there is no place left is a lecturer or was online already, so that there are never
more places taken than there are, but for the host, who needs none to be free.

## Main definitions

* `Participant.takesPlace`, `Session.placesTaken`, `Session.lecturersOnline`.
* `Session.Fitted`: no more places are taken than there are.

## Main results

* `onlineCount_eq`: who is online takes a place or is a lecturer.
* `placesTaken_seat`: the places taken once somebody has been seated.
* `Acted.fitted`, `fitted_after`: every action keeps within the places, and so does every course.
-/

namespace CoEdit

open CoEdit.Time (Instant)

/-- Whether an entry takes a place: it is online, and not that of a lecturer. -/
def Participant.takesPlace (p : Participant) : Bool :=
  p.isOnline && p.role ≠ .lecturer

/-- Lecturers, and nobody else, are admitted to a full session. -/
theorem Role.bypassesCapacity_iff (role : Role) :
    role.bypassesCapacity = true ↔ role = .lecturer := by
  cases role <;> simp [bypassesCapacity]

namespace Session

variable {s s' : Session} {userId userName : String} {role : Role} {now : Instant}
  {action : Action} {result : Result} {f : Participant → Participant}

/-- How many places are taken. -/
def placesTaken (s : Session) : Nat :=
  s.roster.countP (·.takesPlace)

/-- How many lecturers are online. -/
def lecturersOnline (s : Session) : Nat :=
  s.roster.countP fun p => p.isOnline && p.role = .lecturer

/-- Everybody who is online takes a place or is a lecturer. -/
theorem onlineCount_eq (s : Session) : s.onlineCount = s.placesTaken + s.lecturersOnline := by
  rw [onlineCount, placesTaken, lecturersOnline]
  induction s.roster with
  | nil => rfl
  | cons p rest ih =>
      rw [List.countP_cons, List.countP_cons, List.countP_cons, ih, Participant.takesPlace]
      by_cases hon : p.isOnline = true <;> by_cases hrole : p.role = .lecturer <;>
        simp [hon, hrole] <;> omega

/-! ### Changing one entry -/

/-- A user with an entry has it at one place of the roster, and a change of the entry is a change
there. -/
theorem DistinctEntries.exists_split (hd : s.DistinctEntries) {p : Participant}
    (hp : s.participant? userId = some p) :
    ∃ front back, s.roster = front ++ p :: back ∧
      ∀ f, (s.updateEntry userId f).roster = front ++ f p :: back := by
  obtain ⟨hmem, rfl⟩ := mem_of_participant? hp
  obtain ⟨front, back, hroster⟩ := List.append_of_mem hmem
  refine ⟨front, back, hroster, fun f => ?_⟩
  rw [DistinctEntries, hroster, List.map_append, List.map_cons, List.nodup_append] at hd
  obtain ⟨-, hback, hfront⟩ := hd
  have hkeep : ∀ part : List Participant, (∀ q ∈ part, q.userId ≠ p.userId) →
      part.map (fun q => if q.userId = p.userId then f q else q) = part := by
    intro part hpart
    refine (List.map_congr_left fun q hq => ?_).trans (List.map_id part)
    exact if_neg (hpart q hq)
  rw [updateEntry, hroster, List.map_append, List.map_cons, if_pos rfl, hkeep front, hkeep back]
  · intro q hq heq
    exact (List.nodup_cons.mp hback).1 (heq ▸ List.mem_map_of_mem hq)
  · intro q hq
    exact hfront _ (List.mem_map_of_mem hq) _ List.mem_cons_self

/-- A change of one entry changes what this entry counts for. -/
theorem DistinctEntries.placesTaken_updateEntry (hd : s.DistinctEntries) {p : Participant}
    (hp : s.participant? userId = some p) (f : Participant → Participant) :
    (s.updateEntry userId f).placesTaken + p.takesPlace.toNat =
      s.placesTaken + (f p).takesPlace.toNat := by
  obtain ⟨front, back, hroster, hupdate⟩ := hd.exists_split hp
  rw [placesTaken, placesTaken, hupdate, hroster, List.countP_append, List.countP_append,
    List.countP_cons, List.countP_cons]
  cases p.takesPlace <;> cases (f p).takesPlace <;> simp <;> omega

/-- A change that gives nobody a place takes no more of them. -/
theorem placesTaken_updateEntry_le (hf : ∀ p, (f p).takesPlace = true → p.takesPlace = true) :
    (s.updateEntry userId f).placesTaken ≤ s.placesTaken := by
  rw [placesTaken, placesTaken, updateEntry, List.countP_map]
  refine List.countP_mono_left fun p _ htaken => ?_
  rw [Function.comp_apply] at htaken
  split at htaken
  · exact hf p htaken
  · exact htaken

/-! ### Seating -/

/-- The entry of somebody who has been seated. -/
def entrySeated (s : Session) (userId userName : String) (role : Role) (now : Instant) :
    Participant :=
  (s.participant? userId).elim
    (Participant.enter userId userName role.onJoining (colorAt s.roster.length) now)
    fun p => { p.touch now with isOnline := true }

/-- Seating somebody changes what their entry counts for. -/
theorem DistinctEntries.placesTaken_seat (hd : s.DistinctEntries) (userId userName : String)
    (role : Role) (now : Instant) :
    (s.seat userId userName role now).placesTaken +
        (s.participant? userId).elim 0 (·.takesPlace.toNat) =
      s.placesTaken + (s.entrySeated userId userName role now).takesPlace.toNat := by
  rw [entrySeated]
  cases hentry : s.participant? userId with
  | none =>
      rw [seat_of_none hentry, placesTaken, placesTaken, List.countP_append,
        List.countP_singleton, Option.elim_none, Option.elim_none]
      cases (Participant.enter userId userName role.onJoining (colorAt s.roster.length)
        now).takesPlace <;> rfl
  | some entry =>
      rw [seat_of_some hentry]
      exact hd.placesTaken_updateEntry hentry _

/-- Whoever was online keeps their place, or still takes none. -/
theorem DistinctEntries.placesTaken_seat_of_online (hd : s.DistinctEntries)
    (hon : s.isOnline userId = true) :
    (s.seat userId userName role now).placesTaken = s.placesTaken := by
  obtain ⟨entry, hentry, honline⟩ := isOnline_iff.mp hon
  have hseat := hd.placesTaken_seat userId userName role now
  have hsame : (s.entrySeated userId userName role now).takesPlace = entry.takesPlace := by
    rw [entrySeated, hentry, Option.elim_some, Participant.takesPlace, Participant.takesPlace,
      honline]
    rfl
  rw [hsame, hentry] at hseat
  exact Nat.add_right_cancel hseat

/-- Whoever is admitted regardless of the places takes none. -/
theorem DistinctEntries.placesTaken_seat_of_bypass (hd : s.DistinctEntries)
    (hbypass : ((s.participant? userId).elim role (·.role)).bypassesCapacity = true) :
    (s.seat userId userName role now).placesTaken ≤ s.placesTaken := by
  have hseat := hd.placesTaken_seat userId userName role now
  have hnone : (s.entrySeated userId userName role now).takesPlace = false := by
    rw [Role.bypassesCapacity_iff] at hbypass
    rw [entrySeated]
    cases hentry : s.participant? userId with
    | none =>
        rw [hentry] at hbypass
        obtain rfl : role = .lecturer := hbypass
        rfl
    | some entry =>
        rw [hentry] at hbypass
        have hlecturer : entry.role = .lecturer := hbypass
        simp [Participant.takesPlace, Participant.touch, hlecturer]
  rw [hnone, Bool.toNat_false] at hseat
  omega

/-- Anybody else takes one place at most. -/
theorem DistinctEntries.placesTaken_seat_le (hd : s.DistinctEntries) (userId userName : String)
    (role : Role) (now : Instant) :
    (s.seat userId userName role now).placesTaken ≤ s.placesTaken + 1 := by
  have hseat := hd.placesTaken_seat userId userName role now
  have hone := Bool.toNat_le (s.entrySeated userId userName role now).takesPlace
  omega

/-! ### Keeping within the places -/

/-- No more places are taken than there are. The host has one in any case. -/
def Fitted (s : Session) : Prop :=
  s.placesTaken ≤ max 1 s.maxParticipants

/-- Only the host takes a place at the start. -/
theorem fitted_start (id hostId hostName assignmentId : String) (settings : SessionSettings)
    (now : Instant) : (start id hostId hostName assignmentId settings now).Fitted :=
  le_max_left 1 settings.maxParticipants

/-- Nobody gets a place but by joining. -/
theorem Acted.placesTaken_le (h : Acted s now action result s')
    (hother : ∀ admission, result ≠ .joined admission) : s'.placesTaken ≤ s.placesTaken := by
  have hroster : ∀ {t : Session}, s'.roster = t.roster → s'.placesTaken = t.placesTaken :=
    fun heq => by rw [placesTaken, placesTaken, heq]
  cases h with
  | @join _ _ _ admission _ _ => exact absurd rfl (hother admission)
  | depart hok =>
      obtain ⟨-, -, hs'⟩ := depart_ok hok
      rw [hroster (congrArg Session.roster hs')]
      exact placesTaken_updateEntry_le fun p htaken => by
        simp [Participant.takesPlace, Participant.touch] at htaken
  | close =>
      rw [Session.close]
      split <;> exact le_refl _
  | edit hok =>
      obtain ⟨-, -, -, hs'⟩ := edit_ok hok
      rw [hroster (congrArg Session.roster hs')]
      exact placesTaken_updateEntry_le fun p htaken => htaken
  | moveCursor hok =>
      obtain ⟨-, -, hs'⟩ := moveCursor_ok hok
      rw [hroster (congrArg Session.roster hs')]
      exact placesTaken_updateEntry_le fun p htaken => htaken
  | requestHelp hok =>
      obtain ⟨-, -, hs'⟩ := requestHelp_ok hok
      rw [hroster (congrArg Session.roster hs')]
      exact placesTaken_updateEntry_le fun p htaken => htaken
  | compact keepLast => exact le_refl _

/-- **Every action keeps within the places.** -/
theorem Acted.fitted (h : Acted s now action result s') (hd : s.DistinctEntries)
    (hs : s.Fitted) : s'.Fitted := by
  rw [Fitted, h.sameTerms.maxParticipants]
  by_cases hjoined : ∃ admission, result = .joined admission
  · obtain ⟨admission, rfl⟩ := hjoined
    cases h with
    | @join userId userName role _ _ hok =>
        obtain ⟨-, hadmits, hs', -, -⟩ := join_ok hok
        have htaken : s'.placesTaken = (s.seat userId userName role now).placesTaken := by
          rw [hs']
          rfl
        rw [htaken]
        -- Admission asks who is online, and lecturers count there as much as anybody.
        rcases hadmits with hon | hfree | hbypass
        · rw [hd.placesTaken_seat_of_online hon]
          exact hs
        · have hle := hd.placesTaken_seat_le userId userName role now
          have honline := s.onlineCount_eq
          omega
        · exact le_trans (hd.placesTaken_seat_of_bypass hbypass) hs
  · refine le_trans (h.placesTaken_le fun admission heq => ?_) hs
    exact hjoined ⟨admission, heq⟩

/-- **After every course nobody has two entries, the roster is in order, and no more places are
taken than there are.** -/
theorem fitted_after (id hostId hostName assignmentId : String) (settings : SessionSettings)
    (created : Instant) (course : Course) :
    let s := (start id hostId hostName assignmentId settings created).after course
    s.Sound ∧ s.InOrder ∧ s.Fitted := by
  refine after_invariant (I := fun _ t => t.Sound ∧ t.InOrder ∧ t.Fitted) ⟨sound_start, ?_, ?_⟩
    (fun hacted h => ?_) course
  · exact inOrder_start id hostId hostName assignmentId settings created
  · exact fitted_start id hostId hostName assignmentId settings created
  · obtain ⟨hsound, horder, hfitted⟩ := h
    exact ⟨hacted.sound hsound, hacted.inOrder horder, hacted.fitted hsound.distinct hfitted⟩

end Session

end CoEdit

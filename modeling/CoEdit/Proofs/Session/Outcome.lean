import CoEdit.Proofs.Session.Roster
import CoEdit.Proofs.Time.Order

/-!
# What a Transition Does

For each change of a session's state, everything that follows from its success: the checks that
passed, the answer, and the state afterwards. Later modules argue from these statements and do not
open the definitions of the transitions again.

## Main results

* `join_ok`, `depart_ok`, `edit_ok`, `moveCursor_ok`, `requestHelp_ok`: the outcomes.
* `exists_depart`: whoever is on the roster can leave.
* `snapshot_compact`: compaction changes nothing that anybody sees.
-/

namespace CoEdit

open CoEdit.Time (Instant)

/-- Noting the same time twice is noting it once. -/
theorem Time.Instant.later_later (a b : Instant) : (a.later b).later b = a.later b := by
  rw [Instant.later_eq_max, Instant.later_eq_max, max_assoc, max_self]

/-- A computation that may be refused succeeds exactly if both of its parts do. -/
theorem bind_eq_ok {ε α β : Type} {x : Except ε α} {f : α → Except ε β} {b : β} :
    (x >>= f) = .ok b ↔ ∃ a, x = .ok a ∧ f a = .ok b := by
  cases x with
  | error e => simp [bind, Except.bind]
  | ok a => simp [bind, Except.bind]

/-- An answer that is only put in another form is given exactly if the first one is. -/
theorem map_eq_ok {ε α β : Type} {x : Except ε α} {f : α → β} {b : β} :
    x.map f = .ok b ↔ ∃ a, x = .ok a ∧ f a = b := by
  cases x with
  | error e => simp [Except.map]
  | ok a => simp [Except.map]

/-- A refusal is no success, whatever would come after it. -/
theorem throw_bind_ne_ok {ε α β : Type} {e : ε} {f : α → Except ε β} {b : β} :
    (throw e >>= f : Except ε β) ≠ .ok b := by
  simp [throw, throwThe, MonadExceptOf.throw, bind, Except.bind]

namespace Session

variable {s s' : Session} {userId userName : String} {role : Role} {now : Instant}

/-! ### The checks -/

theorem requireStatus_eq_ok {needed : List Status} {u : Unit} :
    s.requireStatus needed = .ok u ↔ s.status ∈ needed := by
  rw [requireStatus]
  split <;> simp_all

/-- People may come in and ask for help exactly as long as the session has not ended. -/
theorem mem_openStatuses : s.status ∈ openStatuses ↔ s.status ≠ .ended := by
  cases s.status <;> simp [openStatuses]

theorem requireEntry_eq_ok {entry : Participant} :
    s.requireEntry userId = .ok entry ↔ s.participant? userId = some entry := by
  rw [requireEntry]
  split <;> simp_all

/-! ### Coming in -/

/-- Whether there is a place for someone: they are online already, or the session is not full, or
their role, the one on the roster if there is one, needs no place. -/
def Admits (s : Session) (userId : String) (role : Role) : Prop :=
  s.isOnline userId = true ∨ s.onlineCount < s.maxParticipants ∨
    ((s.participant? userId).elim role (·.role)).bypassesCapacity = true

/-- The status once someone has been seated: company makes a waiting session active. -/
def statusSeated (s : Session) : Status :=
  if s.status = .waiting ∧ 1 < s.onlineCount then .active else s.status

/-- **Joining.** The session was open and had a place, and the user is seated in it. -/
theorem join_ok {admission : Admission}
    (h : s.join userId userName role now = .ok (admission, s')) :
    s.status ≠ .ended ∧ s.Admits userId role ∧
      s' = { s.seat userId userName role now with
        status := (s.seat userId userName role now).statusSeated
        updatedAt := s.updatedAt.later now } ∧
      s'.participant? userId = some admission.participant ∧
      admission.alreadyOnline = s.isOnline userId := by
  rw [join] at h
  obtain ⟨_, hopen, h⟩ := bind_eq_ok.mp h
  dsimp only at h
  split at h
  · exact absurd h throw_bind_ne_ok
  · next hplace =>
    obtain ⟨entry, hentry, h⟩ := bind_eq_ok.mp h
    obtain ⟨rfl, rfl⟩ := Prod.mk.inj (Except.ok.inj h)
    have hadmits : s.Admits userId role := by
      cases hon : s.isOnline userId with
      | true => exact .inl hon
      | false =>
          rcases Nat.lt_or_ge s.onlineCount s.maxParticipants with hlt | hge
          · exact .inr (.inl hlt)
          · exact .inr (.inr (by simpa [hon, hge] using hplace))
    refine ⟨mem_openStatuses.mp (requireStatus_eq_ok.mp hopen), hadmits, ?_,
      requireEntry_eq_ok.mp hentry, rfl⟩
    have hmark : (s.seat userId userName role now).updatedAt = s.updatedAt := by rw [seat_eq]
    simp only [touch, activate, statusSeated]
    split <;> rw [hmark]

/-- Those on the roster after joining are those of the session in which the user is seated. -/
theorem roster_join {admission : Admission}
    (h : s.join userId userName role now = .ok (admission, s')) :
    s'.roster = (s.seat userId userName role now).roster := by
  obtain ⟨-, -, rfl, -⟩ := join_ok h
  rfl

/-- The entry of someone who has joined is the old one, online again, or a new one. -/
theorem participant_join {admission : Admission}
    (h : s.join userId userName role now = .ok (admission, s')) :
    admission.participant = (s.participant? userId).elim
      (Participant.enter userId userName role.onJoining (colorAt s.roster.length) now)
      fun p => { p.touch now with isOnline := true } := by
  obtain ⟨-, -, -, hentry, -⟩ := join_ok h
  rw [participant?_congr (roster_join h), participant?_seat, if_pos rfl] at hentry
  exact (Option.some.inj hentry).symm

/-! ### Going -/

/-- What has ended does not end again. -/
theorem close_of_ended (h : s.status = .ended) : s.close now = (false, s) :=
  if_pos h

/-- What has not ended yet ends, and is marked with the time. -/
theorem close_of_open (h : s.status ≠ .ended) :
    s.close now = (true, { s with status := .ended, updatedAt := s.updatedAt.later now }) :=
  if_neg h

/-- Closing ends a session. -/
theorem status_close (s : Session) (now : Instant) : (s.close now).2.status = .ended := by
  rw [close]
  split
  · next hended => exact hended
  · rfl

theorem roster_close (s : Session) (now : Instant) : (s.close now).2.roster = s.roster := by
  rw [close]
  split <;> rfl

/-- Leaving, said with the session in which the user is offline. -/
theorem depart_eq : s.depart userId now = (do
    let entry ← s.requireEntry userId
    let participant := { entry with isOnline := false }.touch now
    match (s.offline userId now).reasonToEnd userId with
    | none => .ok (⟨participant, none⟩, (s.offline userId now).touch now)
    | some reason =>
      .ok (⟨participant, if ((s.offline userId now).close now).1 then some reason else none⟩,
        ((s.offline userId now).close now).2.touch now)) := rfl

/-- **Leaving.** The user was on the roster and is offline now. The session ends with the host or
with the last one online, unless it had ended before. -/
theorem depart_ok {departure : Departure} (h : s.depart userId now = .ok (departure, s')) :
    (∃ entry, s.participant? userId = some entry ∧
      departure.participant = { entry with isOnline := false }.touch now) ∧
    departure.ended =
      (if s.status = .ended then none else (s.offline userId now).reasonToEnd userId) ∧
    s' = { s.offline userId now with
      status := if departure.ended = none then s.status else .ended
      updatedAt := s.updatedAt.later now } := by
  rw [depart_eq] at h
  obtain ⟨entry, hentry, h⟩ := bind_eq_ok.mp h
  have hfind := requireEntry_eq_ok.mp hentry
  dsimp only at h
  split at h
  · next hstay =>
    obtain ⟨rfl, rfl⟩ := Prod.mk.inj (Except.ok.inj h)
    exact ⟨⟨entry, hfind, rfl⟩, by simp [hstay], rfl⟩
  · next reason hend =>
    obtain ⟨rfl, rfl⟩ := Prod.mk.inj (Except.ok.inj h)
    refine ⟨⟨entry, hfind, rfl⟩, ?_⟩
    by_cases hs : s.status = .ended
    · rw [close_of_ended (s := s.offline userId now) hs]
      exact ⟨by simp [hs], rfl⟩
    · rw [close_of_open (s := s.offline userId now) hs]
      refine ⟨by simp [hs, hend], ?_⟩
      simp [touch, offline, updateEntry, Instant.later_later]

/-- Whoever is on the roster can leave. -/
theorem exists_depart {entry : Participant} (h : s.participant? userId = some entry)
    (now : Instant) : ∃ departure s', s.depart userId now = .ok (departure, s') := by
  rw [depart_eq, requireEntry_eq_ok.mpr h]
  simp only [bind, Except.bind]
  split
  · exact ⟨_, _, rfl⟩
  · exact ⟨_, _, rfl⟩

/-! ### Being there -/

/-- **Editing.** The session was active and the author online; the change goes to the end of the
history, and its edit is applied to the document. -/
theorem edit_ok {changeId authorId : String} {op : Operation} {change : Change}
    (h : s.edit changeId authorId op now = .ok (change, s')) :
    s.status = .active ∧ s.isOnline authorId = true ∧ change = ⟨changeId, authorId, now, op⟩ ∧
      s' = { s.updateEntry authorId (·.touch now) with
        content := op.apply s.content
        history := s.history ++ [change]
        updatedAt := s.updatedAt.later now } := by
  rw [edit] at h
  obtain ⟨_, hactive, h⟩ := bind_eq_ok.mp h
  dsimp only at h
  split at h
  · exact absurd h throw_bind_ne_ok
  · next honline =>
    obtain ⟨rfl, rfl⟩ := Prod.mk.inj (Except.ok.inj h)
    exact ⟨by simpa using requireStatus_eq_ok.mp hactive, by simpa using honline, rfl, rfl⟩

/-- **Pointing.** The user was online; only the cursor and the mark of activity change. -/
theorem moveCursor_ok {position : Nat} {entry : Participant}
    (h : s.moveCursor userId position now = .ok (entry, s')) :
    s.isOnline userId = true ∧
      (∃ before, s.participant? userId = some before ∧
        entry = { before with cursor := position }.touch now) ∧
      s' = s.updateEntry userId fun p => { p with cursor := position }.touch now := by
  rw [moveCursor] at h
  split at h
  · cases h
  · next before hbefore =>
    obtain ⟨rfl, rfl⟩ := Prod.mk.inj (Except.ok.inj h)
    obtain ⟨hfind, honline⟩ := Option.filter_eq_some_iff.mp hbefore
    exact ⟨isOnline_iff.mpr ⟨before, hfind, honline⟩, ⟨before, hfind, rfl⟩, rfl⟩

/-- **Asking for help.** The session was open and the user on its roster; the flag is up. -/
theorem requestHelp_ok {entry : Participant} (h : s.requestHelp userId now = .ok (entry, s')) :
    s.status ≠ .ended ∧
      (∃ before, s.participant? userId = some before ∧ entry = before.touch now) ∧
      s' = { s.updateEntry userId (·.touch now) with
        lecturerAssistance := true
        updatedAt := s.updatedAt.later now } := by
  rw [requestHelp] at h
  obtain ⟨_, hopen, h⟩ := bind_eq_ok.mp h
  obtain ⟨before, hbefore, h⟩ := bind_eq_ok.mp h
  obtain ⟨rfl, rfl⟩ := Prod.mk.inj (Except.ok.inj h)
  exact ⟨mem_openStatuses.mp (requireStatus_eq_ok.mp hopen),
    ⟨before, requireEntry_eq_ok.mp hbefore, rfl⟩, rfl⟩

/-! ### What is settled at the creation -/

/-- Two states of a session agree in what is settled when a session is created. -/
structure SameTerms (s t : Session) : Prop where
  id : t.id = s.id
  title : t.title = s.title
  assignmentId : t.assignmentId = s.assignmentId
  hostId : t.hostId = s.hostId
  createdAt : t.createdAt = s.createdAt
  language : t.language = s.language
  maxParticipants : t.maxParticipants = s.maxParticipants
  isPublic : t.isPublic = s.isPublic

/-- What is settled shows in the snapshots. -/
theorem sameTerms_of_snapshot_eq {t : Session} (h : t.snapshot = s.snapshot) : SameTerms s t :=
  ⟨congrArg Snapshot.id h, congrArg Snapshot.title h, congrArg Snapshot.assignmentId h,
    congrArg Snapshot.hostId h, congrArg Snapshot.createdAt h, congrArg Snapshot.language h,
    congrArg Snapshot.maxParticipants h, congrArg Snapshot.isPublic h⟩

theorem SameTerms.trans {s t u : Session} (h₁ : SameTerms s t) (h₂ : SameTerms t u) :
    SameTerms s u :=
  ⟨h₂.id.trans h₁.id, h₂.title.trans h₁.title, h₂.assignmentId.trans h₁.assignmentId,
    h₂.hostId.trans h₁.hostId, h₂.createdAt.trans h₁.createdAt, h₂.language.trans h₁.language,
    h₂.maxParticipants.trans h₁.maxParticipants, h₂.isPublic.trans h₁.isPublic⟩

/-- Seating changes the roster, and nothing that is settled. -/
theorem sameTerms_seat (s : Session) (userId userName : String) (role : Role) (now : Instant) :
    SameTerms s (s.seat userId userName role now) := by
  rw [seat_eq]
  exact ⟨rfl, rfl, rfl, rfl, rfl, rfl, rfl, rfl⟩

theorem sameTerms_join {admission : Admission}
    (h : s.join userId userName role now = .ok (admission, s')) : SameTerms s s' := by
  obtain ⟨-, -, rfl, -, -⟩ := join_ok h
  have hseat := sameTerms_seat s userId userName role now
  exact ⟨hseat.id, hseat.title, hseat.assignmentId, hseat.hostId, hseat.createdAt, hseat.language,
    hseat.maxParticipants, hseat.isPublic⟩

theorem sameTerms_depart {departure : Departure}
    (h : s.depart userId now = .ok (departure, s')) : SameTerms s s' := by
  obtain ⟨-, -, rfl⟩ := depart_ok h
  exact ⟨rfl, rfl, rfl, rfl, rfl, rfl, rfl, rfl⟩

theorem sameTerms_edit {changeId authorId : String} {op : Operation} {change : Change}
    (h : s.edit changeId authorId op now = .ok (change, s')) : SameTerms s s' := by
  obtain ⟨-, -, -, rfl⟩ := edit_ok h
  exact ⟨rfl, rfl, rfl, rfl, rfl, rfl, rfl, rfl⟩

theorem sameTerms_moveCursor {position : Nat} {entry : Participant}
    (h : s.moveCursor userId position now = .ok (entry, s')) : SameTerms s s' := by
  obtain ⟨-, -, rfl⟩ := moveCursor_ok h
  exact ⟨rfl, rfl, rfl, rfl, rfl, rfl, rfl, rfl⟩

theorem sameTerms_requestHelp {entry : Participant}
    (h : s.requestHelp userId now = .ok (entry, s')) : SameTerms s s' := by
  obtain ⟨-, -, rfl⟩ := requestHelp_ok h
  exact ⟨rfl, rfl, rfl, rfl, rfl, rfl, rfl, rfl⟩

theorem sameTerms_close : SameTerms s (s.close now).2 := by
  rw [close]
  split <;> exact ⟨rfl, rfl, rfl, rfl, rfl, rfl, rfl, rfl⟩

/-! ### What concerns the document -/

/-- Two states of a session agree in the document and in what is kept of its changes. -/
structure SameDocument (s t : Session) : Prop where
  base : t.base = s.base
  content : t.content = s.content
  history : t.history = s.history
  compacted : t.compacted = s.compacted

/-- The document of a later state comes from that of an earlier one by some changes, and all of them
are counted. -/
structure Follows (s : Session) (changes : List Change) (t : Session) : Prop where
  content : t.content = foldChanges s.content changes
  changeCount : t.changeCount = s.changeCount + changes.length

/-- The same document comes from itself by no changes. -/
theorem SameDocument.follows {t : Session} (h : SameDocument s t) : Follows s [] t where
  content := h.content
  changeCount := by
    rw [Session.changeCount, Session.changeCount, h.compacted, h.history]
    rfl

/-- Seating changes the roster, and no document. -/
theorem sameDocument_seat (s : Session) (userId userName : String) (role : Role) (now : Instant) :
    SameDocument s (s.seat userId userName role now) := by
  rw [seat_eq]
  exact ⟨rfl, rfl, rfl, rfl⟩

theorem sameDocument_join {admission : Admission}
    (h : s.join userId userName role now = .ok (admission, s')) : SameDocument s s' := by
  obtain ⟨-, -, rfl, -, -⟩ := join_ok h
  have hseat := sameDocument_seat s userId userName role now
  exact ⟨hseat.base, hseat.content, hseat.history, hseat.compacted⟩

theorem sameDocument_depart {departure : Departure}
    (h : s.depart userId now = .ok (departure, s')) : SameDocument s s' := by
  obtain ⟨-, -, rfl⟩ := depart_ok h
  exact ⟨rfl, rfl, rfl, rfl⟩

theorem sameDocument_moveCursor {position : Nat} {entry : Participant}
    (h : s.moveCursor userId position now = .ok (entry, s')) : SameDocument s s' := by
  obtain ⟨-, -, rfl⟩ := moveCursor_ok h
  exact ⟨rfl, rfl, rfl, rfl⟩

theorem sameDocument_requestHelp {entry : Participant}
    (h : s.requestHelp userId now = .ok (entry, s')) : SameDocument s s' := by
  obtain ⟨-, -, rfl⟩ := requestHelp_ok h
  exact ⟨rfl, rfl, rfl, rfl⟩

theorem sameDocument_close : SameDocument s (s.close now).2 := by
  rw [close]
  split <;> exact ⟨rfl, rfl, rfl, rfl⟩

/-- An edit is one more change, applied to the document. -/
theorem follows_edit {changeId authorId : String} {op : Operation} {change : Change}
    (h : s.edit changeId authorId op now = .ok (change, s')) : Follows s [change] s' := by
  obtain ⟨-, -, rfl, rfl⟩ := edit_ok h
  refine ⟨rfl, ?_⟩
  simp only [changeCount, updateEntry, List.length_append, List.length_singleton]
  omega

/-! ### Who is online -/

/-- Joining adds the user to those online. -/
theorem isOnline_join_iff {admission : Admission} {other : String}
    (h : s.join userId userName role now = .ok (admission, s')) :
    s'.isOnline other = true ↔ s.isOnline other = true ∨ other = userId := by
  rw [isOnline_congr (roster_join h), isOnline_seat_iff]

/-- Leaving takes the user, and nobody else, out of those online. -/
theorem isOnline_depart_iff {departure : Departure} {other : String}
    (h : s.depart userId now = .ok (departure, s')) :
    s'.isOnline other = true ↔ s.isOnline other = true ∧ other ≠ userId := by
  obtain ⟨-, -, hs'⟩ := depart_ok h
  have hroster : s'.roster = (s.offline userId now).roster := by rw [hs']
  rw [isOnline_congr hroster, isOnline_offline_iff]

theorem isOnline_edit {changeId authorId other : String} {op : Operation} {change : Change}
    (h : s.edit changeId authorId op now = .ok (change, s')) :
    s'.isOnline other = s.isOnline other := by
  obtain ⟨-, -, -, hs'⟩ := edit_ok h
  have hroster : s'.roster = (s.updateEntry authorId (·.touch now)).roster := by rw [hs']
  rw [isOnline_congr hroster, isOnline_updateEntry (fun p => userId_touch p now)
    fun p => isOnline_touch p now]

theorem isOnline_moveCursor {other : String} {position : Nat} {entry : Participant}
    (h : s.moveCursor userId position now = .ok (entry, s')) :
    s'.isOnline other = s.isOnline other := by
  obtain ⟨-, -, rfl⟩ := moveCursor_ok h
  exact isOnline_updateEntry (fun _ => rfl) fun _ => rfl

theorem isOnline_requestHelp {other : String} {entry : Participant}
    (h : s.requestHelp userId now = .ok (entry, s')) :
    s'.isOnline other = s.isOnline other := by
  obtain ⟨-, -, hs'⟩ := requestHelp_ok h
  have hroster : s'.roster = (s.updateEntry userId (·.touch now)).roster := by rw [hs']
  rw [isOnline_congr hroster, isOnline_updateEntry (fun p => userId_touch p now)
    fun p => isOnline_touch p now]

theorem isOnline_close {other : String} :
    (s.close now).2.isOnline other = s.isOnline other :=
  isOnline_congr (s.roster_close now) other

/-! ### Compaction -/

/-- Compaction leaves the number of changes as it is: those folded away are still counted. -/
theorem changeCount_compact (s : Session) (keepLast : Nat) :
    (s.compact keepLast).2.changeCount = s.changeCount := by
  simp only [changeCount, compact, List.length_drop]
  omega

/-- Nobody sees a compaction. -/
theorem snapshot_compact (s : Session) (keepLast : Nat) :
    (s.compact keepLast).2.snapshot = s.snapshot := by
  rw [snapshot, snapshot, changeCount_compact]
  rfl

end Session

end CoEdit

import CoEdit.Proofs.Session.LifeCycle

/-!
# Sessions Only Grow

Whatever is done to a session, what is settled stays, entries keep their places on the roster, marks
of activity do not go back, and changes are only added. Once a session has ended, its document, its
roster and its flag stay as they are, and nobody comes online again. The clock may jump as it likes.

## Main definitions

* `Session.Grows`: what holds between a session and any later state of it.
* `Session.Frozen`: what holds in addition if it had ended.
* `Session.Marked`: no time noted in a session lies after its mark of activity.

## Main results

* `Acted.grows`, `Acted.changeCount_eq`, `Acted.frozen`, `Acted.marked`: one action.
* `only_grows`: whole courses.
-/

namespace CoEdit.Session

open CoEdit.Time (Instant)

variable {s s' t : Session} {now : Instant} {action : Action} {result : Result}

/-! ### Growing -/

/-- A later state of a session: the same terms, all entries in their places, marks that have not
gone back, and a flag that is not lowered. -/
structure Grows (s s' : Session) : Prop where
  terms : SameTerms s s'
  roster : s.RosterContinues s'
  updatedAt : s.updatedAt ≤ s'.updatedAt
  lecturerAssistance : s.lecturerAssistance = true → s'.lecturerAssistance = true

theorem Grows.refl (s : Session) : Grows s s where
  terms := ⟨rfl, rfl, rfl, rfl, rfl, rfl, rfl, rfl⟩
  roster := rosterContinues_of_eq rfl
  updatedAt := le_refl _
  lecturerAssistance hraised := hraised

theorem Grows.trans (h₁ : Grows s s') (h₂ : Grows s' t) : Grows s t where
  terms := h₁.terms.trans h₂.terms
  roster i p hp := by
    obtain ⟨q, hq, hpq⟩ := h₁.roster i p hp
    obtain ⟨r, hr, hqr⟩ := h₂.roster i q hq
    exact ⟨r, hr, hqr.userId.trans hpq.userId, hqr.userName.trans hpq.userName,
      hqr.role.trans hpq.role, hqr.joinedAt.trans hpq.joinedAt, hqr.color.trans hpq.color,
      le_trans hpq.lastActivity hqr.lastActivity⟩
  updatedAt := le_trans h₁.updatedAt h₂.updatedAt
  lecturerAssistance h := h₂.lecturerAssistance (h₁.lecturerAssistance h)

/-- The session's own mark of activity stays or is pushed forward. -/
theorem Acted.updatedAt_eq (h : Acted s now action result s') :
    s'.updatedAt = s.updatedAt ∨ s'.updatedAt = s.updatedAt.later now := by
  cases h with
  | join hok =>
      obtain ⟨-, -, rfl, -, -⟩ := join_ok hok
      exact .inr rfl
  | depart hok =>
      obtain ⟨-, -, rfl⟩ := depart_ok hok
      exact .inr rfl
  | close =>
      rw [Session.close]
      split
      · exact .inl rfl
      · exact .inr rfl
  | edit hok =>
      obtain ⟨-, -, -, rfl⟩ := edit_ok hok
      exact .inr rfl
  | moveCursor hok =>
      obtain ⟨-, -, rfl⟩ := moveCursor_ok hok
      exact .inl rfl
  | requestHelp hok =>
      obtain ⟨-, -, rfl⟩ := requestHelp_ok hok
      exact .inr rfl
  | compact keepLast => exact .inl rfl

theorem Acted.updatedAt_le (h : Acted s now action result s') : s.updatedAt ≤ s'.updatedAt := by
  rcases h.updatedAt_eq with hsame | hlater
  · rw [hsame]
  · rw [hlater]
    exact Instant.le_later_left _ _

/-- The flag stays, or it is raised by a call for help in a session that is open. -/
theorem Acted.lecturerAssistance_eq (h : Acted s now action result s') :
    s'.lecturerAssistance = s.lecturerAssistance ∨
      (s.status ≠ .ended ∧ s'.lecturerAssistance = true) := by
  cases h with
  | @join userId userName role _ _ hok =>
      obtain ⟨-, -, hs', -, -⟩ := join_ok hok
      rw [hs', seat_eq]
      exact .inl rfl
  | depart hok =>
      obtain ⟨-, -, rfl⟩ := depart_ok hok
      exact .inl rfl
  | close =>
      rw [Session.close]
      split <;> exact .inl rfl
  | edit hok =>
      obtain ⟨-, -, -, rfl⟩ := edit_ok hok
      exact .inl rfl
  | moveCursor hok =>
      obtain ⟨-, -, rfl⟩ := moveCursor_ok hok
      exact .inl rfl
  | requestHelp hok =>
      obtain ⟨hopen, -, rfl⟩ := requestHelp_ok hok
      exact .inr ⟨hopen, rfl⟩
  | compact keepLast => exact .inl rfl

/-- **Every action lets a session grow.** -/
theorem Acted.grows (h : Acted s now action result s') : Grows s s' where
  terms := h.sameTerms
  roster := h.rosterStep.rosterContinues
  updatedAt := h.updatedAt_le
  lecturerAssistance hraised := by
    rcases h.lecturerAssistance_eq with hsame | ⟨-, hnow⟩
    · rw [hsame, hraised]
    · exact hnow

/-- An action adds one change if it is an edit, and else none. -/
theorem Acted.changeCount_eq (h : Acted s now action result s') :
    s'.changeCount = s.changeCount + result.change?.toList.length :=
  h.follows.changeCount

/-! ### Ended sessions -/

/-- A later state of a session that had ended: the same document, roster and flag, and nobody is
online who was not. -/
structure Frozen (s s' : Session) : Prop where
  status : s'.status = .ended
  content : s'.content = s.content
  changeCount : s'.changeCount = s.changeCount
  lecturerAssistance : s'.lecturerAssistance = s.lecturerAssistance
  rosterLength : s'.roster.length = s.roster.length
  absent : ∀ userId, s.isOnline userId = false → s'.isOnline userId = false

theorem Frozen.refl (h : s.status = .ended) : Frozen s s :=
  ⟨h, rfl, rfl, rfl, rfl, fun _ hoff => hoff⟩

theorem Frozen.trans (h₁ : Frozen s s') (h₂ : Frozen s' t) : Frozen s t where
  status := h₂.status
  content := h₂.content.trans h₁.content
  changeCount := h₂.changeCount.trans h₁.changeCount
  lecturerAssistance := h₂.lecturerAssistance.trans h₁.lecturerAssistance
  rosterLength := h₂.rosterLength.trans h₁.rosterLength
  absent userId h := h₂.absent userId (h₁.absent userId h)

/-- An ended session lets nobody in and takes no edit. -/
theorem Acted.of_ended (h : Acted s now action result s') (hs : s.status = .ended) :
    (∀ admission, result ≠ .joined admission) ∧ result.change? = none := by
  cases h with
  | join hok => exact absurd hs (join_ok hok).1
  | edit hok =>
      rw [(edit_ok hok).1] at hs
      cases hs
  | depart | close | moveCursor | requestHelp | compact =>
      refine ⟨fun admission hjoined => ?_, rfl⟩
      cases hjoined

/-- Only somebody who joins can come online. -/
theorem Acted.isOnline_before {userId : String} (h : Acted s now action result s')
    (hother : ∀ admission, result ≠ .joined admission) (hon : s'.isOnline userId = true) :
    s.isOnline userId = true := by
  cases h with
  | @join _ _ _ admission _ _ => exact absurd rfl (hother admission)
  | depart hok => exact ((isOnline_depart_iff hok).mp hon).1
  | close => exact isOnline_close.symm.trans hon
  | edit hok => exact (isOnline_edit hok).symm.trans hon
  | moveCursor hok => exact (isOnline_moveCursor hok).symm.trans hon
  | requestHelp hok => exact (isOnline_requestHelp hok).symm.trans hon
  | compact keepLast => exact hon

/-- **What has ended is frozen.** -/
theorem Acted.frozen (h : Acted s now action result s') (hs : s.status = .ended) :
    Frozen s s' := by
  obtain ⟨hother, hnone⟩ := h.of_ended hs
  have hleads := h.leads
  rw [hs] at hleads
  have hfollows := h.follows
  rw [hnone] at hfollows
  have hlength : s'.roster.length = s.roster.length :=
    h.length_eq fun admission hjoined => absurd hjoined (hother admission)
  refine ⟨hleads.eq_ended, hfollows.content, hfollows.changeCount, ?_, hlength,
    fun userId hoff => ?_⟩
  · rcases h.lecturerAssistance_eq with hsame | ⟨hopen, -⟩
    · exact hsame
    · exact absurd hs hopen
  · rw [Bool.eq_false_iff] at hoff ⊢
    exact fun hon => hoff (h.isOnline_before hother hon)

/-! ### Times -/

/-- The mark of activity of a session is no earlier than its creation, the arrival of anybody on its
roster, and any of the changes that it has taken. -/
structure Marked (changes : List Change) (s : Session) : Prop where
  created : s.createdAt ≤ s.updatedAt
  joined : ∀ p ∈ s.roster, p.joinedAt ≤ s.updatedAt
  changed : ∀ change ∈ changes, change.timestamp ≤ s.updatedAt

/-- A session is marked at its start. -/
theorem marked_start (id hostId hostName assignmentId : String) (settings : SessionSettings)
    (now : Instant) : Marked [] (start id hostId hostName assignmentId settings now) where
  created := le_refl _
  joined p hp := by
    rw [List.mem_singleton.mp hp]
    exact le_refl _
  changed change hchange := by cases hchange

/-- An edit is timed by the action, and marks the session. -/
theorem Acted.timestamp_le {change : Change} (h : Acted s now action (.edited change) s') :
    change.timestamp ≤ s'.updatedAt := by
  cases h with
  | edit hok =>
      obtain ⟨-, -, rfl, rfl⟩ := edit_ok hok
      exact Instant.le_later_right _ _

theorem Acted.marked {changes : List Change} (h : Acted s now action result s')
    (hs : Marked changes s) : Marked (changes ++ result.change?.toList) s' where
  created := by
    rw [h.sameTerms.createdAt]
    exact le_trans hs.created h.updatedAt_le
  joined q hq := by
    cases h.rosterStep with
    | same hlength hcontinues =>
        obtain ⟨i, hi⟩ := List.mem_iff_getElem?.mp hq
        obtain ⟨p, hp, hpq⟩ := hcontinues.exists_getElem? hlength hi
        rw [hpq.joinedAt]
        exact le_trans (hs.joined p (List.mem_of_getElem? hp)) h.updatedAt_le
    | newcomer userId userName role _ _ _ hroster hmark =>
        rw [hroster] at hq
        rcases List.mem_append.mp hq with hold | hnew
        · exact le_trans (hs.joined q hold) h.updatedAt_le
        · rw [List.mem_singleton.mp hnew]
          exact hmark
  changed change hchange := by
    rcases List.mem_append.mp hchange with hold | hnew
    · exact le_trans (hs.changed change hold) h.updatedAt_le
    · cases result with
      | edited last =>
          rw [List.mem_singleton.mp hnew]
          exact h.timestamp_le
      | _ => cases hnew

/-! ### Whole courses -/

theorem grows_after (s : Session) (course : Course) : Grows s (s.after course) :=
  after_invariant (I := fun _ t => Grows s t) (.refl s)
    (fun hacted h => h.trans hacted.grows) course

theorem frozen_after (hs : s.status = .ended) (course : Course) : Frozen s (s.after course) :=
  after_invariant (I := fun _ t => Frozen s t) (.refl hs)
    (fun hacted h => h.trans (hacted.frozen h.status)) course

/-- **Sessions only grow, and an ended one is frozen.** After any course of a session, at whatever
times, nothing noted in it lies after its mark of activity. Whatever is done next, successfully or
not, lets it grow, by one change if it is an edit that is taken and by none otherwise, and freezes
it if it has ended; and so does all that follows. -/
theorem only_grows (id hostId hostName assignmentId : String) (settings : SessionSettings)
    (created : Instant) (course : Course) :
    let s₀ := start id hostId hostName assignmentId settings created
    let s := s₀.after course
    Marked (s₀.changesIn course) s ∧
    (∀ now action,
      Grows s (s.step now action).2 ∧
      (∀ change, (s.step now action).1 = .ok (.edited change) →
        (s.step now action).2.changeCount = s.changeCount + 1) ∧
      ((∀ change, (s.step now action).1 ≠ .ok (.edited change)) →
        (s.step now action).2.changeCount = s.changeCount) ∧
      (s.status = .ended → Frozen s (s.step now action).2)) ∧
    ∀ rest, Grows s (s.after rest) ∧ (s.status = .ended → Frozen s (s.after rest)) := by
  intro s₀ s
  have hmarked : Marked (s₀.changesIn course) s :=
    after_invariant (I := Marked) (marked_start id hostId hostName assignmentId settings created)
      Acted.marked course
  refine ⟨hmarked, fun now action => ?_, fun rest => ⟨grows_after s rest, fun hs =>
    frozen_after hs rest⟩⟩
  rcases s.step_cases now action with ⟨error, hstep⟩ | ⟨result, s', hok, hstep⟩
  · rw [hstep]
    refine ⟨.refl s, fun change hedited => ?_, fun _ => rfl, Frozen.refl⟩
    cases hedited
  · rw [hstep]
    have hcount := hok.changeCount_eq
    refine ⟨hok.grows, fun change hedited => ?_, fun hother => ?_, hok.frozen⟩
    · obtain rfl := Except.ok.inj hedited
      exact hcount
    · cases result with
      | edited change => exact absurd rfl (hother change)
      | _ => exact hcount

end CoEdit.Session

import CoEdit.Proofs.Session.Outcome

/-!
# Sound Sessions

What holds of a session at any time: no user is on the roster twice, the host is online as long as
the session has not ended, and nobody else is online while it waits.

## Main definitions

* `Session.Sound`.

## Main results

* `sound_start`, `Sound.join`, `Sound.depart`, `Sound.edit`, `Sound.moveCursor`,
  `Sound.requestHelp`, `Sound.close`, `Sound.compact`.
* `Sound.status_join`, `Sound.ended_eq`: what arrivals and departures do to the status.
-/

namespace CoEdit.Session

open CoEdit.Time (Instant)

variable {s s' : Session} {userId userName : String} {role : Role} {now : Instant}

/-- What holds of a session at any time. -/
structure Sound (s : Session) : Prop where
  distinct : s.DistinctEntries
  host_online : s.status ≠ .ended → s.isOnline s.hostId = true
  alone : s.status = .waiting → ∀ user, s.isOnline user = true → user = s.hostId

/-- A session is sound at the start. -/
theorem sound_start {id hostId hostName assignmentId : String} {settings : SessionSettings} :
    (start id hostId hostName assignmentId settings now).Sound where
  distinct := by simp [DistinctEntries, start]
  host_online _ := isOnline_start_iff.mpr rfl
  alone _ _ hon := isOnline_start_iff.mp hon

/-- What keeps the ids on the roster and the people online, and at most ends the session, keeps it
sound. -/
theorem Sound.congr (h : s.Sound) (hhost : s'.hostId = s.hostId)
    (hids : s'.roster.map Participant.userId = s.roster.map Participant.userId)
    (hon : ∀ user, s'.isOnline user = s.isOnline user)
    (hstatus : s'.status = s.status ∨ s'.status = .ended) : s'.Sound where
  distinct := by
    rw [DistinctEntries, hids]
    exact h.distinct
  host_online hopen := by
    rw [hon, hhost]
    rcases hstatus with hsame | hended
    · exact h.host_online (hsame ▸ hopen)
    · exact absurd hended hopen
  alone hwaiting user huser := by
    rw [hon] at huser
    rw [hhost]
    rcases hstatus with hsame | hended
    · exact h.alone (hsame ▸ hwaiting) user huser
    · rw [hended] at hwaiting
      cases hwaiting

/-- Seating someone keeps the ids on a roster distinct, and so does joining. -/
theorem Sound.join {admission : Admission} (h : s.Sound)
    (hjoin : s.join userId userName role now = .ok (admission, s')) : s'.Sound := by
  have hhost : s'.hostId = s.hostId := (sameTerms_join hjoin).hostId
  have hon : ∀ user, s'.isOnline user = true ↔ s.isOnline user = true ∨ user = userId :=
    fun user => isOnline_join_iff hjoin
  obtain ⟨hopen, -, hs', -, -⟩ := join_ok hjoin
  have hroster := roster_join hjoin
  have hseated : s'.isOnline s'.hostId = true := by
    rw [hon, hhost]
    exact .inl (h.host_online hopen)
  refine ⟨?_, fun _ => hseated, fun hwaiting user huser => ?_⟩
  · rw [DistinctEntries, hroster]
    exact h.distinct.seat
  · by_contra hother
    -- Two users online are company, and the session would be active.
    have hcount : 1 < (s.seat userId userName role now).onlineCount := by
      have htwo := one_lt_onlineCount hseated huser (Ne.symm hother)
      rwa [onlineCount, hroster] at htwo
    have hstatus : s'.status = (s.seat userId userName role now).statusSeated := by rw [hs']
    rw [hstatus, statusSeated] at hwaiting
    split at hwaiting
    · cases hwaiting
    · next hnot => exact hnot ⟨hwaiting, hcount⟩

/-- Whoever is let in for the first time, or again, makes the session active; for someone who is
online already nothing changes. -/
theorem Sound.status_join {admission : Admission} (h : s.Sound)
    (hjoin : s.join userId userName role now = .ok (admission, s')) :
    s'.status = if admission.alreadyOnline then s.status else .active := by
  obtain ⟨hopen, -, hs', -, halready⟩ := join_ok hjoin
  have hstatus : s'.status = (s.seat userId userName role now).statusSeated := by rw [hs']
  have hon : ∀ user, (s.seat userId userName role now).isOnline user = true ↔
      s.isOnline user = true ∨ user = userId := fun user => isOnline_seat_iff
  have hsame : (s.seat userId userName role now).status = s.status := by rw [seat_eq]
  rw [hstatus, statusSeated, hsame]
  cases hwas : admission.alreadyOnline with
  | true =>
      rw [halready] at hwas
      -- Alone before, the user is alone still, and that is no company.
      refine if_neg fun hboth => ?_
      obtain ⟨hwaiting, hcompany⟩ := hboth
      have halone : ∀ user, (s.seat userId userName role now).isOnline user = true →
          user = s.hostId := by
        intro user huser
        rcases (hon user).mp huser with hold | rfl
        · exact h.alone hwaiting user hold
        · exact h.alone hwaiting user hwas
      have hone := h.distinct.seat.onlineCount_le_one halone
      omega
  | false =>
      rw [halready] at hwas
      have hhost := h.host_online hopen
      have hne : s.hostId ≠ userId := by
        rintro rfl
        rw [hhost] at hwas
        cases hwas
      have hcompany : 1 < (s.seat userId userName role now).onlineCount :=
        one_lt_onlineCount ((hon _).mpr (.inl hhost)) ((hon _).mpr (.inr rfl)) hne
      cases hst : s.status with
      | waiting => simp [hcompany]
      | active => simp
      | ended => exact absurd hst hopen

/-- A departure ends the session exactly if the host leaves before it has ended. The session never
runs empty: until its end the host is online. -/
theorem Sound.ended_eq {departure : Departure} (h : s.Sound)
    (hdepart : s.depart userId now = .ok (departure, s')) :
    departure.ended = if s.status ≠ .ended ∧ userId = s.hostId then some .hostLeft else none := by
  obtain ⟨-, hended, -⟩ := depart_ok hdepart
  rw [hended]
  by_cases hopen : s.status = .ended
  · simp [hopen]
  · by_cases huser : userId = s.hostId
    · rw [if_neg hopen, if_pos ⟨hopen, huser⟩]
      exact if_pos huser
    · have hhost : (s.offline userId now).isOnline s.hostId = true :=
        isOnline_offline_iff.mpr ⟨h.host_online hopen, Ne.symm huser⟩
      have hcount : (s.offline userId now).onlineCount ≠ 0 :=
        Nat.ne_of_gt (onlineCount_pos hhost)
      rw [if_neg hopen, if_neg fun hboth => huser hboth.2]
      exact (if_neg huser).trans (if_neg hcount)

/-- When the host leaves, the session ends. -/
theorem Sound.depart {departure : Departure} (h : s.Sound)
    (hdepart : s.depart userId now = .ok (departure, s')) : s'.Sound := by
  have hhost : s'.hostId = s.hostId := (sameTerms_depart hdepart).hostId
  have hon : ∀ user, s'.isOnline user = true ↔ s.isOnline user = true ∧ user ≠ userId :=
    fun user => isOnline_depart_iff hdepart
  obtain ⟨-, hended, hs'⟩ := depart_ok hdepart
  have hstatus : s'.status ≠ .ended → departure.ended = none ∧ s'.status = s.status := by
    rw [hs']
    cases departure.ended with
    | none => exact fun _ => ⟨rfl, rfl⟩
    | some reason => exact fun hnot => absurd rfl hnot
  refine ⟨?_, fun hopen => ?_, fun hwaiting user huser => ?_⟩
  · have hroster : s'.roster = (s.offline userId now).roster := by rw [hs']
    rw [DistinctEntries, hroster, offline, map_userId_updateEntry (userId_offline now)]
    exact h.distinct
  · obtain ⟨hnone, hsame⟩ := hstatus hopen
    have hopen' : s.status ≠ .ended := hsame ▸ hopen
    rw [hon, hhost]
    refine ⟨h.host_online hopen', fun heq => ?_⟩
    have hleft : (s.offline userId now).reasonToEnd userId = some .hostLeft := if_pos heq.symm
    rw [hnone, if_neg hopen', hleft] at hended
    cases hended
  · obtain ⟨-, hsame⟩ := hstatus (by rw [hwaiting]; exact Status.noConfusion)
    rw [hhost]
    exact h.alone (hsame ▸ hwaiting) user ((hon user).mp huser).1

theorem Sound.edit {changeId authorId : String} {op : Operation} {change : Change} (h : s.Sound)
    (hedit : s.edit changeId authorId op now = .ok (change, s')) : s'.Sound := by
  obtain ⟨-, -, -, hs'⟩ := edit_ok hedit
  refine h.congr (sameTerms_edit hedit).hostId ?_ (fun _ => isOnline_edit hedit) (.inl ?_)
  · rw [hs']
    exact map_userId_updateEntry fun _ => rfl
  · rw [hs']
    rfl

theorem Sound.moveCursor {position : Nat} {entry : Participant} (h : s.Sound)
    (hmove : s.moveCursor userId position now = .ok (entry, s')) : s'.Sound := by
  obtain ⟨-, -, hs'⟩ := moveCursor_ok hmove
  refine h.congr (sameTerms_moveCursor hmove).hostId ?_ (fun _ => isOnline_moveCursor hmove)
    (.inl ?_)
  · rw [hs']
    exact map_userId_updateEntry fun _ => rfl
  · rw [hs']
    rfl

theorem Sound.requestHelp {entry : Participant} (h : s.Sound)
    (hrequest : s.requestHelp userId now = .ok (entry, s')) : s'.Sound := by
  obtain ⟨-, -, hs'⟩ := requestHelp_ok hrequest
  refine h.congr (sameTerms_requestHelp hrequest).hostId ?_ (fun _ => isOnline_requestHelp hrequest)
    (.inl ?_)
  · rw [hs']
    exact map_userId_updateEntry fun _ => rfl
  · rw [hs']
    rfl

theorem Sound.close (h : s.Sound) (now : Instant) : (s.close now).2.Sound := by
  refine h.congr sameTerms_close.hostId ?_ (fun _ => isOnline_close) ?_
  · rw [Session.close]
    split <;> rfl
  · rw [Session.close]
    split
    · exact .inl rfl
    · exact .inr rfl

theorem Sound.compact (h : s.Sound) (keepLast : Nat) : (s.compact keepLast).2.Sound :=
  h.congr rfl rfl (fun _ => rfl) (.inl rfl)

end CoEdit.Session

import CoEdit.Proofs.Engine.Seating

/-!
# Directory, Rosters and Routing Agree

Every operation of an engine keeps the whereabouts, the rosters and the subscriptions in agreement.

## Main results

* `Balanced.create`, `Balanced.join`, `Balanced.leave`, `Balanced.change`, `Balanced.cursor`,
  `Balanced.assist`, `Balanced.sweep`: the operations.
* `Balanced.outcome`: any command that succeeds.
-/

namespace CoEdit.Engine

open CoEdit.Time (Instant)

variable {e e' : Engine} {sessionId userId userName : String} {now : Clock}

namespace Balanced

/-- Between two operations, a user is in one session at most. -/
theorem located_unique {key₁ key₂ : String} (h₁ : e.Located userId key₁)
    (h₂ : e.Located userId key₂) : key₁ = key₂ :=
  Option.some.inj (h₁.symm.trans h₂)

/-! ### Coming and going -/

/-- Leaving whatever session one is in. -/
theorem vacate (h : e.Balanced) (userId : String) (now : Clock) :
    (e.vacate userId now).Balanced := by
  rw [Engine.vacate]
  split
  · exact h
  · next previous hprevious =>
    have hseating : (e.displace userId).Seating e.Located := h.congr rfl rfl
    refine (hseating.departFrom hprevious now).of_iff fun user key => ?_
    rw [Located, Located, whereabouts_departFrom, displace, Table.get?_erase]
    by_cases huser : user = userId
    · subst huser
      rw [hprevious]
      simp [eq_comm]
    · simp [huser]

theorem sessions_vacate_eq_none_iff {key : String} (h : e.Balanced) (userId : String)
    (now : Clock) :
    (e.vacate userId now).sessions.get? key = none ↔ e.sessions.get? key = none := by
  rw [Engine.vacate]
  split
  · exact Iff.rfl
  · next previous hprevious =>
    have hseating : (e.displace userId).Seating e.Located := h.congr rfl rfl
    exact hseating.sessions_departFrom_eq_none_iff hprevious now

/-- Installing a new session gives its host, who is nowhere else, a place in it. -/
theorem install {s : Session} {hostName : String} (h : e.Balanced)
    (hhost : e.whereabouts.get? s.hostId = none) (hnew : e.sessions.get? s.id = none)
    (hon : ∀ user, s.isOnline user = true ↔ user = s.hostId) (now : Clock) :
    (e.install s hostName now).Balanced := by
  have hnobody : ∀ user, ¬e.Located user s.id := fun user => h.not_seated_of_none hnew
  have henroll : (e.enroll s.id s s.hostId).Seating fun user key =>
      e.Located user key ∨ (user = s.hostId ∧ key = s.id) :=
    h.enroll rfl fun user => by rw [hon user, or_iff_right (hnobody user)]
  have htell : ((e.enroll s.id s s.hostId).tell s.id
      [.created s.hostId hostName s.title s.language s.content] []
      (now.promptStamps s.id)).Seating _ :=
    henroll.tell _ _ _
  have hinstall : (e.install s hostName now).Seating _ := htell.congr rfl rfl
  refine hinstall.of_iff fun user key => ?_
  change _ ↔ (e.whereabouts.put s.hostId s.id).get? user = some key
  rw [Located, Table.get?_put]
  by_cases huser : user = s.hostId
  · subst huser
    simp [hhost, eq_comm]
  · simp [huser]

/-- Creating a session under an id that is not in use. -/
theorem create {hostId hostName assignmentId : String} {options : SessionOptions}
    {snapshot : Snapshot} (h : e.Balanced) (hfresh : e.sessions.get? e.freshSessionId = none)
    (hok : e.create hostId hostName assignmentId options now = .ok (snapshot, e')) :
    e'.Balanced := by
  obtain ⟨settings, -, -, rfl⟩ := create_ok hok
  refine (h.vacate hostId now).install ?_ ?_ ?_ now
  · exact whereabouts_vacate.trans (if_pos rfl)
  · exact (h.sessions_vacate_eq_none_iff hostId now).mpr hfresh
  · exact fun user => Session.isOnline_start_iff

/-- A user who arrives in a session has a place there, besides the place they had before. -/
theorem welcome {s s' : Session} {admission : Admission} {role : Role} (h : e.Balanced)
    (hs : e.sessions.get? sessionId = some s)
    (hjoin : s.join userId userName role (now.acting sessionId) = .ok (admission, s')) :
    (e.welcome sessionId userId admission s' now).Seating fun user key =>
      e.Located user key ∨ (user = userId ∧ key = sessionId) := by
  have hid : s'.id = sessionId := (Session.sameTerms_join hjoin).id.trans (h.id_eq hs)
  have hon : ∀ user, s'.isOnline user = true ↔ e.Located user sessionId ∨ user = userId :=
    fun user => by rw [Session.isOnline_join_iff hjoin, h.isOnline_iff hs]
  have htell : ((e.enroll sessionId s' userId).tell sessionId (arrivalFacts userId admission)
      [(arrivalNotice userId admission s', none)] (now.stamps sessionId)).Seating _ :=
    (h.enroll hid hon).tell _ _ _
  exact htell.congr rfl rfl

/-- Joining a session, and leaving the one before. -/
theorem join {role : Role} {snapshot : Snapshot} (h : e.Balanced)
    (hok : e.join sessionId userId userName role now = .ok (snapshot, e')) : e'.Balanced := by
  obtain ⟨s, s', admission, hs, hjoin, -, rfl⟩ := join_ok hok
  have hwelcome := h.welcome hs hjoin
  have hwhere : ∀ user, (e.welcome sessionId userId admission s' now).whereabouts.get? user =
      if user = userId then some sessionId else e.whereabouts.get? user :=
    fun user => Table.get?_put _ _ _ _
  by_cases hstay : ∀ key, e.whereabouts.get? userId = some key → key = sessionId
  · rw [leaveBehind_of_forall hstay]
    refine hwelcome.of_iff fun user key => ?_
    rw [Located, Located, hwhere]
    by_cases huser : user = userId
    · subst huser
      rw [if_pos rfl, Option.some.injEq]
      constructor
      · rintro (hold | ⟨-, rfl⟩)
        · exact (hstay key hold).symm
        · rfl
      · rintro rfl
        exact Or.inr ⟨rfl, rfl⟩
    · simp [huser]
  · simp only [not_forall] at hstay
    obtain ⟨previous, hprevious, hother⟩ := hstay
    rw [hprevious, leaveBehind_of_ne hother]
    refine (hwelcome.departFrom (Or.inl hprevious) now).of_iff fun user key => ?_
    rw [Located, Located, whereabouts_departFrom, hwhere]
    by_cases huser : user = userId
    · subst huser
      rw [hprevious, if_pos rfl, Option.some.injEq, Option.some.injEq]
      constructor
      · rintro ⟨hold | ⟨-, rfl⟩, hnot⟩
        · exact absurd ⟨rfl, hold.symm⟩ hnot
        · rfl
      · rintro rfl
        exact ⟨Or.inr ⟨rfl, rfl⟩, fun hsame => hother hsame.2.symm⟩
    · simp [huser]

/-- Leaving. -/
theorem leave {left : Bool} (h : e.Balanced) (hok : e.leave userId now = .ok (left, e')) :
    e'.Balanced := by
  rw [leave_ok hok]
  exact h.vacate userId now

/-! ### Working together -/

/-- An operation that stores a session with the same people online keeps the tables in
agreement. -/
theorem store {s s' : Session} (h : e.Balanced) (hs : e.sessions.get? sessionId = some s)
    (hid : s'.id = s.id) (hon : ∀ user, s'.isOnline user = s.isOnline user) (facts : List Fact)
    (notices : List (Notice × Option String)) (stamps : Stamps) :
    ((e.putSession s').tell sessionId facts notices stamps).Balanced :=
  (h.putSession hs hid hon).tell facts notices stamps

theorem change {authorId : String} {op : Operation} {change : Change} (h : e.Balanced)
    (hok : e.change sessionId authorId op now = .ok (change, e')) : e'.Balanced := by
  obtain ⟨s, s', hs, -, hedit, rfl⟩ := change_ok hok
  have hid : (limitHistory e.config s').id = s.id :=
    (sameTerms_limitHistory e.config s').id.trans (Session.sameTerms_edit hedit).id
  have hon : ∀ user, (limitHistory e.config s').isOnline user = s.isOnline user := fun user => by
    rw [Session.isOnline_congr (roster_limitHistory e.config s'), Session.isOnline_edit hedit]
  have htold : ((e.putSession (limitHistory e.config s')).tell sessionId [.changed change]
      [(.codeChange change (limitHistory e.config s').content, some authorId)]
      (now.promptStamps sessionId)).Balanced :=
    h.store hs hid hon _ _ _
  exact htold.congr rfl rfl

theorem cursor {position : Nat} {u : Unit} (h : e.Balanced)
    (hok : e.cursor userId position now = .ok (u, e')) : e'.Balanced := by
  obtain ⟨key, s, s', entry, -, hs, hmove, rfl⟩ := cursor_ok hok
  exact h.store hs (Session.sameTerms_moveCursor hmove).id
    (fun _ => Session.isOnline_moveCursor hmove) _ _ _

theorem assist {message : Option String} {u : Unit} (h : e.Balanced)
    (hok : e.assist sessionId userId message now = .ok (u, e')) : e'.Balanced := by
  obtain ⟨s, s', entry, hs, hrequest, rfl⟩ := assist_ok hok
  exact h.store hs (Session.sameTerms_requestHelp hrequest).id
    (fun _ => Session.isOnline_requestHelp hrequest) _ _ _

/-! ### Sweeping -/

/-- A sweep takes all places in the sessions it removes, and no others. -/
theorem sweep (h : e.Balanced) (asOf : Instant) (now : Clock) : (e.sweep asOf now).2.Balanced := by
  have hswept : (e.swept asOf now).Seating fun user key =>
      e.Located user key ∧ key ∉ e.expired asOf :=
    (h.foldl_endIdle asOf now (e.abandoned asOf)).foldl_removeSession (e.expired asOf)
  have hwhere : (e.swept asOf now).whereabouts = e.whereabouts := by
    rw [swept, whereabouts_foldl_removeSession, whereabouts_foldl_endIdle]
  have hresult : (e.sweep asOf now).2.Seating _ := hswept.congr rfl rfl
  refine hresult.of_iff fun user key => ?_
  rw [Located, Located, sweep_eq, hwhere, Table.get?_filter, Option.filter_eq_some_iff,
    decide_eq_true_eq]

/-! ### Commands -/

/-- Every command keeps the tables in agreement. -/
theorem outcome {command : Command} {answer : Answer} (h : e.Balanced)
    (hfresh : e.sessions.get? e.freshSessionId = none)
    (hok : Outcome e now command answer e') : e'.Balanced := by
  cases hok with
  | create hok => exact h.create hfresh hok
  | join hok => exact h.join hok
  | leave hok => exact h.leave hok
  | change hok => exact h.change hok
  | cursor hok => exact h.cursor hok
  | assist hok => exact h.assist hok
  | connect userId line =>
      refine h.congr rfl ?_
      cases line <;> rfl
  | disconnect => exact h.congr rfl rfl
  | sweep asOf => exact h.sweep asOf now

end Balanced

end CoEdit.Engine

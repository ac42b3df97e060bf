import CoEdit.Proofs.Engine.Places
import CoEdit.Proofs.Text.Blank

/-!
# Who Is Let In

An open session lets everybody in for whom it has a place, and refuses all others as full. For a
lecturer there is always a place, unless the session knows them as something else: whoever comes
back keeps the role they have on the roster, whatever role they ask for, and needs a free place like
all others in this role.

## Main definitions

* `Session.Displaces`: a session has no place for someone who comes back.

## Main results

* `Session.exists_join`, `Session.join_of_full`: who is let in, and how the others are refused.
* `Reachable.exists_sessionName`: sessions are kept under the ids that were given out.
* `lecturers_admitted`: whom a session lets in as a lecturer, full or not.
* `lecturers_not_always_admitted`: not everybody.
-/

namespace CoEdit

open CoEdit.Time (Instant)

namespace Session

variable {s s' : Session} {userId userName : String} {role : Role} {now : Instant}

/-! ### Letting somebody in -/

/-- What a session checks about its places when somebody comes. -/
theorem not_admits_iff : ¬s.Admits userId role ↔
    (!s.isOnline userId && s.maxParticipants ≤ s.onlineCount &&
      !((s.participant? userId).elim role (·.role)).bypassesCapacity) = true := by
  simp only [Admits, not_or, Bool.and_eq_true, Bool.not_eq_true', decide_eq_true_eq, Nat.not_lt,
    Bool.not_eq_true, and_assoc]

/-- **Whoever has a place is let in**, as long as the session has not ended. -/
theorem exists_join (hopen : s.status ≠ .ended) (hadmits : s.Admits userId role) (userName : String)
    (now : Instant) :
    ∃ admission s', s.join userId userName role now = .ok (admission, s') := by
  have hstatus : s.requireStatus openStatuses = .ok () :=
    requireStatus_eq_ok.mpr (mem_openStatuses.mpr hopen)
  have hplace := not_admits_iff.not.mp (not_not.mpr hadmits)
  -- Whoever has been seated is on the roster, so the last look-up finds them.
  have hroster : ((s.seat userId userName role now).activate.touch now).roster =
      (s.seat userId userName role now).roster := by
    rw [touch, activate]
    split <;> rfl
  have hseated := participant?_congr hroster userId
  rw [participant?_seat, if_pos rfl] at hseated
  have hentry := requireEntry_eq_ok.mpr hseated
  rw [join, hstatus]
  dsimp only [bind, Except.bind]
  rw [if_neg hplace, hentry]
  exact ⟨_, _, rfl⟩

/-- **Whoever has none is refused**, and told that the session is full. -/
theorem join_of_full (hopen : s.status ≠ .ended) (hfull : ¬s.Admits userId role) :
    s.join userId userName role now = .error (.sessionFull s.id s.maxParticipants) := by
  have hstatus : s.requireStatus openStatuses = .ok () :=
    requireStatus_eq_ok.mpr (mem_openStatuses.mpr hopen)
  rw [join, hstatus]
  dsimp only [bind, Except.bind]
  rw [if_pos (not_admits_iff.mp hfull)]
  rfl

/-- Whether a full session has somebody on its roster who went, and who was no lecturer there. They
have no place any more, in whatever role they come back. -/
def ShutsOut (s : Session) (userId : String) : Prop :=
  s.maxParticipants ≤ s.onlineCount ∧
    ∃ entry ∈ s.participant? userId, entry.isOnline = false ∧ entry.role ≠ .lecturer

instance : Decidable (s.ShutsOut userId) :=
  inferInstanceAs (Decidable (_ ∧ _))

/-- Only those who come back in another role can miss a place as a lecturer. -/
theorem not_admits_lecturer_iff : ¬s.Admits userId .lecturer ↔ s.ShutsOut userId := by
  rw [Admits, ShutsOut, isOnline, Role.bypassesCapacity_iff]
  cases s.participant? userId with
  | none => simp
  | some entry =>
      simp only [Option.any_some, Option.elim_some, not_or, Nat.not_lt, Bool.not_eq_true,
        Option.mem_some_iff, exists_eq_left']
      constructor
      · rintro ⟨hoff, hfull, hrole⟩
        exact ⟨hfull, hoff, hrole⟩
      · rintro ⟨hfull, hoff, hrole⟩
        exact ⟨hoff, hfull, hrole⟩

end Session

/-- A session that is there after a step was there before. -/
theorem Dossier.Step.exists_session {config : Config} {m : Moment} {sessionId : String}
    {d d' : Dossier} {s : Session} (h : Step config m sessionId d d') (hs : d'.session = some s) :
    ∃ before, d.session = some before := by
  cases h with
  | quiet => exact ⟨s, hs⟩
  | turn _ hturned =>
      obtain ⟨before, -, -, -, hbefore, -⟩ := hturned
      exact ⟨before, hbefore⟩
  | remove => cases hs

namespace Engine

variable {config : Config} {e e' : Engine} {sessionId userId userName : String} {role : Role}
  {s : Session} {now : Clock}

/-! ### The ids of sessions -/

/-- The ids of sessions are not blank. -/
theorem isBlank_sessionName (n : Nat) : Text.isBlank (sessionName n) = false := by
  rw [sessionName, Text.isBlank_append]
  rfl

/-- What is created has the next session id. -/
theorem sessionName_of_creation? {command : Command} {snapshot : Snapshot}
    (h : Moment.creation? ⟨now, command, (e.step now command).1⟩ sessionId = some snapshot) :
    sessionId = sessionName e.sessionsMade := by
  obtain ⟨⟨_, _, _, _, hcommand⟩, hanswer, hid⟩ := Moment.creation?_eq_some h
  obtain rfl : command = _ := hcommand
  rcases e.step_cases now (.create _ _ _ _) with ⟨error, hstep⟩ | ⟨answer, e', hok, hstep⟩
  · rw [hstep] at hanswer
    cases hanswer
  · rw [hstep] at hanswer
    cases hok with
    | create hok =>
        obtain rfl := Answer.session.inj (Except.ok.inj hanswer)
        exact hid.symm.trans (sessionsMade_create hok).1

/-- **Every session is kept under one of the ids given out.** -/
theorem Reachable.exists_sessionName (h : e.Reachable config)
    (hs : e.sessions.get? sessionId = some s) : ∃ n, sessionId = sessionName n := by
  refine h.invariant (I := fun e => ∀ s, e.sessions.get? sessionId = some s →
    ∃ n, sessionId = sessionName n) nofun ?_ ?_ s hs
  · intro e h now command he s hs
    rcases h.coherent.step_dossier now command sessionId with hstep | ⟨-, hbegun⟩
    · obtain ⟨before, hbefore⟩ := hstep.exists_session hs
      exact he before hbefore
    · obtain ⟨_, -, hcreation⟩ := hbegun.creation?
      exact ⟨_, sessionName_of_creation? hcreation⟩
  · intro e e' hsame he s hs
    exact he s ((hsame.session sessionId).symm.trans hs)

/-! ### Joining -/

/-- An identifier that is not blank passes the check. -/
theorem require_of_not_blank {value : String} (h : Text.isBlank value = false) (field : Field) :
    require value field = .ok () := by
  rw [require, h]
  rfl

/-- Joining is up to the session, if it is there and the user has an id. -/
theorem join_of_session (he : e.Reachable config) (hs : e.sessions.get? sessionId = some s)
    (huser : Text.isBlank userId = false) (userName : String) (role : Role) (now : Clock) :
    e.join sessionId userId userName role now = (do
      let (admission, s') ← s.join userId (Text.orElseIfBlank userName userId) role
        (now.acting sessionId)
      pure (s'.snapshot, (e.welcome sessionId userId admission s' now).leaveBehind
        (e.whereabouts.get? userId) sessionId userId now)) := by
  obtain ⟨n, rfl⟩ := he.exists_sessionName hs
  rw [join_eq, require_of_not_blank (isBlank_sessionName n), require_of_not_blank huser,
    requireSession_eq_ok.mpr hs]
  rfl

theorem whereabouts_leaveBehind (previous : Option String) :
    (e.leaveBehind previous sessionId userId now).whereabouts = e.whereabouts := by
  cases previous with
  | none => rfl
  | some key =>
      rw [leaveBehind]
      split
      · rfl
      · exact whereabouts_departFrom

/-- Whoever has joined a session is online in it, also once they have left the one before. -/
theorem Balanced.isPresent_join {snapshot : Snapshot} (h : e.Balanced)
    (hok : e.join sessionId userId userName role now = .ok (snapshot, e')) :
    e'.IsPresent userId sessionId := by
  refine ((h.join hok).present_iff userId sessionId).mpr ?_
  obtain ⟨s, s', admission, -, -, -, rfl⟩ := join_ok hok
  rw [Located, whereabouts_leaveBehind]
  exact Table.get?_put_self _ _ _

/-- **Lecturers are let in, full or not, unless they come back as something else.** In every state
that an engine can be in, a session that has not ended lets every user in as a lecturer, and they
are online in it afterwards. There is one exception: whoever went from the session and was no
lecturer there is refused while it is full. -/
theorem lecturers_admitted (he : e.Reachable config) (hs : e.sessions.get? sessionId = some s)
    (hopen : s.status ≠ .ended) (huser : Text.isBlank userId = false) (userName : String)
    (now : Clock) :
    (¬s.ShutsOut userId → ∃ snapshot e',
      e.join sessionId userId userName .lecturer now = .ok (snapshot, e') ∧
        e'.IsPresent userId sessionId) ∧
    (s.ShutsOut userId →
      e.join sessionId userId userName .lecturer now =
        .error (.sessionFull sessionId s.maxParticipants)) := by
  rw [← Session.not_admits_lecturer_iff, not_not]
  constructor
  · intro hadmits
    obtain ⟨admission, s', hjoin⟩ :=
      Session.exists_join hopen hadmits (Text.orElseIfBlank userName userId)
        (now.acting sessionId)
    have hok := join_of_session he hs huser userName .lecturer now
    rw [hjoin] at hok
    exact ⟨_, _, hok, he.coherent.balanced.isPresent_join hok⟩
  · intro hfull
    rw [join_of_session he hs huser userName .lecturer now, Session.join_of_full hopen hfull,
      he.coherent.balanced.id_eq hs]
    rfl

/-- Ada opens a session for two. Bob comes and goes, and Cy takes the place. -/
def placeTaken : History :=
  .still [(⟨0, 0⟩, .create "ada" "Ada" "primes" { maxParticipants := some 2 }),
    (⟨1, 0⟩, .join "$s0" "bob" "Bob" .participant), (⟨2, 0⟩, .leave "bob"),
    (⟨3, 0⟩, .join "$s0" "cy" "Cy" .participant)]

/-- Lee is let in as a lecturer, the third of two. Bob, who is on the roster as a participant, is
not. -/
theorem lecturers_admitted_placeTaken :
    let e := (Engine.new .default).after placeTaken
    ∃ s, e.Reachable .default ∧ e.sessions.get? "$s0" = some s ∧ s.status ≠ .ended ∧
      Text.isBlank "lee" = false ∧ ¬s.ShutsOut "lee" ∧
      Text.isBlank "bob" = false ∧ s.ShutsOut "bob" ∧
      (∃ snapshot e', e.join "$s0" "lee" "Lee" .lecturer (.still ⟨4, 0⟩) = .ok (snapshot, e') ∧
        e'.IsPresent "lee" "$s0") ∧
      e.join "$s0" "bob" "Bob" .lecturer (.still ⟨4, 0⟩) =
        .error (.sessionFull "$s0" s.maxParticipants) := by
  intro e
  have he : e.Reachable .default := Reachable.new.after placeTaken
  have hthere : ∃ s ∈ e.sessions.get? "$s0",
      s.status ≠ .ended ∧ ¬s.ShutsOut "lee" ∧ s.ShutsOut "bob" := by decide +kernel
  obtain ⟨s, hs, hopen, hlee, hbob⟩ := hthere
  have hleeId : Text.isBlank "lee" = false := by decide
  have hbobId : Text.isBlank "bob" = false := by decide
  have hadmitted := (lecturers_admitted he hs hopen hleeId "Lee" (.still ⟨4, 0⟩)).1 hlee
  have hrefused := (lecturers_admitted he hs hopen hbobId "Bob" (.still ⟨4, 0⟩)).2 hbob
  exact ⟨s, he, hs, hopen, hleeId, hlee, hbobId, hbob, hadmitted, hrefused⟩

/-- So it is not true that lecturers are let in however many people are online. -/
theorem lecturers_not_always_admitted :
    ¬∀ (config : Config) (e : Engine), e.Reachable config →
      ∀ sessionId s, e.sessions.get? sessionId = some s → s.status ≠ .ended →
        ∀ userId, Text.isBlank userId = false → ∀ userName now, ∃ snapshot e',
          e.join sessionId userId userName .lecturer now = .ok (snapshot, e') ∧
            e'.IsPresent userId sessionId := by
  intro halways
  have hthere : ∃ s ∈ ((Engine.new .default).after placeTaken).sessions.get? "$s0",
      s.status ≠ .ended := by decide +kernel
  obtain ⟨s, hs, hopen⟩ := hthere
  obtain ⟨snapshot, e', hok, -⟩ := halways .default _ (Reachable.new.after placeTaken) "$s0" s hs
    hopen "bob" (by decide) "Bob" (.still ⟨4, 0⟩)
  have hrefused : (((Engine.new .default).after placeTaken).join "$s0" "bob" "Bob" .lecturer
      (.still ⟨4, 0⟩)).isOk = false := by decide +kernel
  rw [hok] at hrefused
  cases hrefused

end Engine

end CoEdit

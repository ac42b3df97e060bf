import CoEdit.Proofs.Engine.Standing

/-!
# What Joining Comes To

Whoever asks to join a session is refused for the first of five reasons that applies, and is let in
if none does. Who comes for the first time gets an entry at the end of the roster; who comes back
finds their old one; who is there already only shows a sign of life.

## Main definitions

* `Engine.refusal?`: why somebody is not let in.
* `Session.LetsIn`: what letting somebody in means for the session.
* `Engine.LetsIn`: what it means for the engine.

## Main results

* `Sound.letsIn`: the session after somebody has joined it.
* `join_outcome`: joining, in every state, by everybody.
-/

namespace CoEdit

open CoEdit.Time (Instant)

namespace Session

variable {s s' : Session} {userId userName : String} {role : Role} {now : Instant}

/-- The role in which a session takes somebody: the one on its roster, if they are on it, and
otherwise the one they ask for. -/
def effectiveRole (s : Session) (userId : String) (role : Role) : Role :=
  (s.participant? userId).elim role (·.role)

/-- Whether somebody who comes finds the session full: they are not online in it, there is no free
place, and they need one. -/
def IsFullFor (s : Session) (userId : String) (role : Role) : Prop :=
  s.isOnline userId = false ∧ s.maxParticipants ≤ s.onlineCount ∧
    s.effectiveRole userId role ≠ .lecturer

instance : Decidable (s.IsFullFor userId role) :=
  inferInstanceAs (Decidable (_ ∧ _))

/-- Exactly those for whom it is full are not admitted. -/
theorem isFullFor_iff : s.IsFullFor userId role ↔ ¬s.Admits userId role := by
  rw [IsFullFor, Admits, not_or, not_or, Nat.not_lt, Bool.not_eq_true, Role.bypassesCapacity_iff,
    effectiveRole]

/-- Nobody joins a session that has ended. -/
theorem join_of_ended (h : s.status = .ended) :
    s.join userId userName role now = .error (.sessionInactive s.id .ended openStatuses) := by
  have hstatus : s.requireStatus openStatuses =
      .error (.sessionInactive s.id .ended openStatuses) := by
    rw [requireStatus, h]
    rfl
  rw [join, hstatus]
  rfl

/-- A session has let somebody in, under a name and in a role; `entry` is their entry afterwards. -/
structure LetsIn (s : Session) (userId userName : String) (role : Role) (now : Instant)
    (s' : Session) (entry : Participant) : Prop where
  found : s'.participant? userId = some entry
  online : entry.isOnline = true
  /-- Who is not on the roster is added at its end. -/
  newcomer : s.participant? userId = none →
    s'.roster = s.roster ++ [entry] ∧
    entry = ⟨userId, userName, role.onJoining, 0, now, now, true, colorAt s.roster.length⟩
  /-- Who is on it keeps their place and all that is in their entry, and shows a sign of life. -/
  returning : ∀ old, s.participant? userId = some old →
    entry = { old with isOnline := true, lastActivity := old.lastActivity.later now } ∧
    ∃ front back, s.roster = front ++ old :: back ∧ s'.roster = front ++ entry :: back
  status : s'.status = if s.status = .waiting ∧ 1 < s'.onlineCount then .active else s.status
  /-- There are no other changes. -/
  rest : s' = { s with
    roster := s'.roster, status := s'.status, updatedAt := s.updatedAt.later now }

/-- **The session after somebody has joined it.** -/
theorem Sound.letsIn {admission : Admission} (h : s.Sound)
    (hjoin : s.join userId userName role now = .ok (admission, s')) :
    s.LetsIn userId userName role now s' admission.participant := by
  obtain ⟨-, -, hs', hfound, -⟩ := join_ok hjoin
  have hroster := roster_join hjoin
  have hentry := participant_join hjoin
  have hcount : (s.seat userId userName role now).onlineCount = s'.onlineCount := by
    rw [onlineCount, onlineCount, hroster]
  have hstatus : (s.seat userId userName role now).status = s.status := by rw [seat_eq]
  refine ⟨hfound, ?_, fun hnone => ?_, fun old hold => ?_, ?_, ?_⟩
  · rw [hentry]
    cases s.participant? userId <;> rfl
  · rw [hnone] at hentry
    rw [hroster, seat_of_none hnone, hentry]
    exact ⟨rfl, rfl⟩
  · rw [hold] at hentry
    obtain ⟨front, back, hfront, hupdate⟩ := h.distinct.exists_split hold
    refine ⟨hentry, front, back, hfront, ?_⟩
    rw [hroster, seat_of_some hold, hupdate, hentry]
    rfl
  · rw [← hcount, ← hstatus, hs']
    rfl
  · rw [hs', seat_eq]

end Session

namespace Engine

variable {config : Config} {e e' : Engine} {sessionId userId userName : String} {role : Role}
  {now : Clock} {s s' : Session} {error : Error}

/-! ### Refusals -/

/-- Why somebody is not let into a session, if they are not: the first of the reasons that
applies. -/
def refusal? (e : Engine) (sessionId userId : String) (role : Role) : Option Error :=
  if Text.isBlank sessionId then some (.missingField .sessionId)
  else if Text.isBlank userId then some (.missingField .userId)
  else match e.sessions.get? sessionId with
  | none => some (.sessionNotFound sessionId)
  | some s =>
    if s.status = .ended then some (.sessionInactive sessionId .ended [.waiting, .active])
    else if s.IsFullFor userId role then some (.sessionFull sessionId s.maxParticipants)
    else none

theorem require_of_blank {value : String} (h : Text.isBlank value = true) (field : Field) :
    require value field = .error (.missingField field) :=
  if_pos h

/-- Whoever has a reason not to be let in is told this reason. -/
theorem Reachable.join_of_refusal (he : e.Reachable config)
    (h : e.refusal? sessionId userId role = some error) (userName : String) (now : Clock) :
    e.join sessionId userId userName role now = .error error := by
  rw [refusal?] at h
  split at h
  · next hsession =>
    obtain rfl := Option.some.inj h
    rw [join_eq, require_of_blank hsession]
    rfl
  · next hsession =>
    have hsession := require_of_not_blank (Bool.eq_false_iff.mpr hsession) .sessionId
    split at h
    · next huser =>
      obtain rfl := Option.some.inj h
      rw [join_eq, hsession, require_of_blank huser]
      rfl
    · next huser =>
      replace huser := Bool.eq_false_iff.mpr huser
      split at h
      · next hnone =>
        obtain rfl := Option.some.inj h
        rw [join_eq, hsession, require_of_not_blank huser, requireSession, hnone]
        rfl
      · next s hs =>
        obtain rfl := he.coherent.balanced.id_eq hs
        rw [join_of_session he hs huser]
        split at h
        · next hended =>
          obtain rfl := Option.some.inj h
          rw [Session.join_of_ended hended]
          rfl
        · next hopen =>
          split at h
          · next hfull =>
            obtain rfl := Option.some.inj h
            rw [Session.join_of_full hopen (Session.isFullFor_iff.mp hfull)]
            rfl
          · cases h

/-- What letting somebody into a session comes to. `s` is the session before and `s'` the session
afterwards, with their entry in it. -/
structure LetsIn (e : Engine) (sessionId userId userName : String) (role : Role) (now : Clock)
    (s s' : Session) (entry : Participant) (e' : Engine) : Prop where
  before : e.sessions.get? sessionId = some s
  after : e'.sessions.get? sessionId = some s'
  /-- Who gives no name goes by their id. -/
  session : s.LetsIn userId (Text.orElseIfBlank userName userId) role (now.acting sessionId) s'
    entry
  /-- They are in this session from now on, whatever session they were in before. -/
  located : e'.Located userId sessionId
  /-- Everybody there is told once that they have joined; it goes on record if they were away. -/
  tells : e.Tells sessionId
    (if s.isOnline userId then [] else [.joined userId entry.userName entry.role])
    [.userJoined userId entry.userName entry.role entry.color s'.onlineCount s'.status]
    (now.recording sessionId) e'
  /-- It concerns them, the session, and the one they were in before. -/
  elsewhere : StaysWithin (sessionId :: (e.whereabouts.get? userId).toList) userId e e'
  /-- If they were online in it, they only show a sign of life, and nothing but this is told. -/
  again : s.isOnline userId = true → s'.status = s.status ∧
    (∀ old, s.participant? userId = some old →
      entry = { old with lastActivity := old.lastActivity.later (now.acting sessionId) }) ∧
    e' = (e.putSession s').announce sessionId
      (.userJoined userId entry.userName entry.role entry.color s'.onlineCount s'.status) none
      (now.announcing sessionId 0)

variable {admission : Admission}

/-- The session joined takes one turn, whatever session is left for it. -/
theorem Balanced.dossier_join (h : e.Balanced) (hs : e.sessions.get? sessionId = some s)
    (hjoin : s.join userId userName role (now.acting sessionId) = .ok (admission, s')) :
    ((e.welcome sessionId userId admission s' now).leaveBehind
      (e.whereabouts.get? userId) sessionId userId now).dossier sessionId =
      (e.dossier sessionId).advance s' (arrivalFacts userId admission)
        [arrivalNotice userId admission s'] (now.recording sessionId) := by
  have hid : s'.id = sessionId := (Session.sameTerms_join hjoin).id.trans (h.id_eq hs)
  have harrive : (e.welcome sessionId userId admission s' now).dossier sessionId =
      (e.dossier sessionId).advance s' (arrivalFacts userId admission)
        [arrivalNotice userId admission s'] (now.recording sessionId) :=
    (dossier_welcome hid).trans (if_pos rfl)
  by_cases hstay : ∀ previous, e.whereabouts.get? userId = some previous → previous = sessionId
  · rw [leaveBehind_of_forall hstay]
    exact harrive
  · simp only [not_forall] at hstay
    obtain ⟨previous, hprevious, hother⟩ := hstay
    rw [hprevious, leaveBehind_of_ne hother,
      (h.welcome hs hjoin).dossier_departFrom_of_ne (.inl hprevious) (Ne.symm hother)]
    exact harrive

/-- Whoever is in the session already is only announced again. -/
theorem Balanced.join_again (h : e.Balanced) (hs : e.sessions.get? sessionId = some s)
    (hon : s.isOnline userId = true) (halready : admission.alreadyOnline = s.isOnline userId) :
    (e.welcome sessionId userId admission s' now).leaveBehind
      (e.whereabouts.get? userId) sessionId userId now =
      (e.putSession s').announce sessionId (arrivalNotice userId admission s') none
        (now.announcing sessionId 0) := by
  have hlocated : e.whereabouts.get? userId = some sessionId := (h.isOnline_iff hs).mp hon
  have hsubscribed : e.gateway.subscribe sessionId userId = e.gateway :=
    if_pos ((h.subscribed_iff userId sessionId).mpr hlocated)
  have hplaced : e.whereabouts.put userId sessionId = e.whereabouts := Table.put_eq_self hlocated
  rw [hlocated, leaveBehind_of_forall fun key hkey => (Option.some.inj hkey).symm,
    Engine.welcome, arrivalFacts, halready, if_pos hon, Engine.enroll, hsubscribed]
  change { (e.putSession s').announce sessionId (arrivalNotice userId admission s') none
      (now.announcing sessionId 0) with
    whereabouts := e.whereabouts.put userId sessionId } = _
  rw [hplaced]
  rfl

/-- Whoever has a place in an open session is let in. -/
theorem Reachable.exists_letsIn (he : e.Reachable config)
    (hs : e.sessions.get? sessionId = some s) (hopen : s.status ≠ .ended)
    (huser : Text.isBlank userId = false) (hadmits : s.Admits userId role) (userName : String)
    (now : Clock) :
    ∃ s' entry e', e.join sessionId userId userName role now = .ok (s'.snapshot, e') ∧
      e.LetsIn sessionId userId userName role now s s' entry e' := by
  have hbalanced := he.coherent.balanced
  have hsound := he.sound hs
  obtain ⟨admission, s', hjoin⟩ :=
    Session.exists_join hopen hadmits (Text.orElseIfBlank userName userId) (now.acting sessionId)
  have hok := join_of_session he hs huser userName role now
  rw [hjoin] at hok
  refine ⟨s', admission.participant, _, hok, ?_⟩
  obtain ⟨-, -, -, -, halready⟩ := Session.join_ok hjoin
  have hletsIn := hsound.letsIn hjoin
  have hadvance := hbalanced.dossier_join hs hjoin
  have hstep := outcome_iff.mp (.join hok)
  refine ⟨hs, congrArg Dossier.session hadvance, hletsIn, ?_, ?_,
    staysWithin_join hbalanced.id_eq hok, fun hon =>
      ⟨?_, fun old hold => ?_, hbalanced.join_again hs hon halready⟩⟩
  · rw [Located, whereabouts_leaveBehind]
    exact Table.get?_put_self _ _ _
  · rw [← halready]
    exact he.wellKept.tells_step hs (congrArg Prod.snd hstep) hadvance (by simp [Notice.actor?])
  · rw [hsound.status_join hjoin, halready, if_pos hon]
  · obtain ⟨entry, hentry, honline⟩ := Session.isOnline_iff.mp hon
    obtain rfl := Option.some.inj (hold.symm.trans hentry)
    rw [(hletsIn.returning old hold).1, ← honline]

end Engine

end CoEdit

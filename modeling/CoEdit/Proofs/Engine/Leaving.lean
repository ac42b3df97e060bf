import CoEdit.Proofs.Engine.Standing

/-!
# What Leaving Comes To

Users leave a session in three ways: on purpose, by joining another one, or by creating one. To the
session that they leave it is all the same. Their entry stays on the roster and goes offline, the
others are told, and if it was the host who left, the session ends, unless it had ended before.

## Main definitions

* `Command.Quits`: the three ways of leaving a session.
* `Session.LetsGo`: what somebody's leaving means for the session.
* `Engine.LetsGo`: what it means for the engine.

## Main results

* `Sound.letsGo`: the session after somebody has left it.
* `Moved.exists_departure`: whoever is not there any more after a command of their own has left.
* `leaving_outcome`: leaving, in every state, by everybody.
-/

namespace CoEdit

open CoEdit.Time (Instant)

/-- Whether a user leaves a session by a command, if it succeeds and they are in the session. -/
def Command.Quits (userId sessionId : String) : Command → Prop
  | .leave user => user = userId
  | .join target user _ _ => user = userId ∧ target ≠ sessionId
  | .create hostId _ _ _ => hostId = userId
  | _ => False

theorem Command.Quits.mover? {command : Command} {userId sessionId : String}
    (h : command.Quits userId sessionId) : command.mover? = some userId := by
  cases command with
  | leave => exact congrArg some h
  | join => exact congrArg some h.1
  | create => exact congrArg some h
  | _ => exact h.elim

namespace Session

variable {s s' : Session} {userId : String} {now : Instant}

/-- Whether the session ends when a user leaves it: they are its host, and it has not ended yet. -/
def EndsWithout (s : Session) (userId : String) : Prop :=
  s.status ≠ .ended ∧ userId = s.hostId

instance : Decidable (s.EndsWithout userId) :=
  inferInstanceAs (Decidable (_ ∧ _))

/-- Somebody has left a session; `entry` is their entry before. -/
structure LetsGo (s : Session) (userId : String) (now : Instant) (s' : Session)
    (entry : Participant) : Prop where
  found : s.participant? userId = some entry
  online : entry.isOnline = true
  /-- Their entry goes offline where it is; all others stay as they are. -/
  roster : ∃ front back, s.roster = front ++ entry :: back ∧
    s'.roster = front ++
      { entry with isOnline := false, lastActivity := entry.lastActivity.later now } :: back
  onlineCount : s'.onlineCount + 1 = s.onlineCount
  status : s'.status = if s.EndsWithout userId then .ended else s.status
  /-- There are no other changes. -/
  rest : s' = { s with
    roster := s'.roster, status := s'.status, updatedAt := s.updatedAt.later now }

/-- **The session after somebody has left it.** -/
theorem Sound.letsGo {departure : Departure} (h : s.Sound) (hon : s.isOnline userId = true)
    (hdepart : s.depart userId now = .ok (departure, s')) :
    ∃ entry, s.LetsGo userId now s' entry ∧
      departure.participant.userName = entry.userName := by
  obtain ⟨⟨entry, hentry, hparticipant⟩, -, hs'⟩ := depart_ok hdepart
  obtain ⟨_, hfound, honline⟩ := isOnline_iff.mp hon
  obtain rfl := Option.some.inj (hentry.symm.trans hfound)
  obtain ⟨front, back, hroster, hupdate⟩ := h.distinct.exists_split hentry
  have hroster' : s'.roster = front ++
      { entry with isOnline := false, lastActivity := entry.lastActivity.later now } :: back := by
    rw [hs']
    exact hupdate _
  refine ⟨entry, ⟨hentry, honline, ⟨front, back, hroster, hroster'⟩, ?_, ?_, ?_⟩, ?_⟩
  · rw [onlineCount, onlineCount, hroster, hroster']
    simp [List.countP_append, honline]
    omega
  · have hended : departure.ended = if s.EndsWithout userId then some .hostLeft else none :=
      h.ended_eq hdepart
    rw [hs', hended]
    by_cases hends : s.EndsWithout userId
    · simp [hends]
    · simp [hends]
  · rw [hs']
    rfl
  · rw [hparticipant]
    rfl

end Session

/-- **Whoever is not there any more after a command of their own has left.** -/
theorem Dossier.Moved.exists_departure {config : Config} {m : Moment} {sessionId userId : String}
    {d d' : Dossier} {s : Session} (h : Moved config m sessionId d d')
    (hmover : m.command.mover? = some userId) (hs : d.session = some s)
    (hon : s.isOnline userId = true)
    (hgone : ∀ s', d'.session = some s' → s'.isOnline userId = false) :
    ∃ departure s', s.depart userId (m.time sessionId) = .ok (departure, s') ∧
      d' = d.advance s' (Engine.departureFacts userId departure)
        (Engine.departureNotices userId departure s') (m.clock.recording sessionId) := by
  rcases h with hstep | ⟨rfl, -⟩
  · cases hstep with
    | quiet =>
        rw [hgone s hs] at hon
        cases hon
    | turn _ hturned =>
        obtain ⟨before, facts, notices, s', hbefore, rfl, hturn, rfl⟩ := hturned
        obtain rfl := Option.some.inj (hbefore.symm.trans hs)
        cases hturn with
        | @arrive _ _ _ _ s' _ _ hjoin =>
            -- Nobody is taken out of a session by somebody's joining it.
            have hstill := (Session.isOnline_join_iff hjoin).mpr (.inl hon)
            rw [hgone s' rfl] at hstill
            cases hstill
        | depart hleaver _ hdepart =>
            obtain rfl := Option.some.inj (hleaver.symm.trans hmover)
            rw [Moment.times_of_mover hmover]
            exact ⟨_, _, hdepart, rfl⟩
        | edit hcommand | point hcommand | help hcommand | giveUp hcommand =>
            rw [hcommand] at hmover
            cases hmover
    | remove _ hcommand =>
        rw [hcommand] at hmover
        cases hmover
  · cases hs

namespace Engine

variable {config : Config} {e e' : Engine} {sessionId userId : String} {now : Clock}
  {s s' : Session} {command : Command} {answer : Answer} {departure : Departure}

/-- Whoever leaves a session is not in it afterwards. -/
theorem Outcome.not_located (h : Outcome e now command answer e')
    (hquits : command.Quits userId sessionId) (hused : sessionId ≠ e.freshSessionId) :
    ¬e'.Located userId sessionId := by
  cases h with
  | leave hok =>
      obtain rfl := hquits
      rw [leave_ok hok, Located, whereabouts_vacate, if_pos rfl]
      exact (Option.some_ne_none sessionId).symm
  | join hok =>
      obtain ⟨rfl, hother⟩ := hquits
      obtain ⟨s, s', admission, -, -, -, rfl⟩ := join_ok hok
      rw [Located, whereabouts_leaveBehind]
      exact fun hthere => hother (Option.some.inj ((Table.get?_put_self _ _ _).symm.trans hthere))
  | create hok =>
      obtain rfl := hquits
      obtain ⟨settings, -, -, rfl⟩ := create_ok hok
      exact fun hthere => hused (Option.some.inj (hthere.symm.trans (Table.get?_put_self _ _ _)))
  | _ => exact hquits.elim

/-- What is recorded of a departure. -/
theorem departureFacts_eq {time : Instant} (h : s.Sound)
    (hdepart : s.depart userId time = .ok (departure, s')) :
    departureFacts userId departure =
      .left userId :: if s.EndsWithout userId then [.ended .hostLeft] else [] := by
  have hended : departure.ended = if s.EndsWithout userId then some .hostLeft else none :=
    h.ended_eq hdepart
  rw [departureFacts, hended]
  split <;> rfl

/-- What is announced of a departure. -/
theorem departureNotices_eq {time : Instant} {entry : Participant} (h : s.Sound)
    (hdepart : s.depart userId time = .ok (departure, s'))
    (hname : departure.participant.userName = entry.userName) :
    departureNotices userId departure s' =
      .userLeft userId entry.userName s'.onlineCount ::
        if s.EndsWithout userId then [.sessionEnded .hostLeft] else [] := by
  have hended : departure.ended = if s.EndsWithout userId then some .hostLeft else none :=
    h.ended_eq hdepart
  rw [departureNotices, hended, hname]
  split <;> rfl

/-- It is for everybody there. -/
theorem actor?_departureNotices : ∀ n ∈ departureNotices userId departure s', n.actor? = none := by
  intro n hn
  rcases List.mem_cons.mp hn with rfl | hlast
  · rfl
  · obtain ⟨reason, -, rfl⟩ := Option.map_eq_some_iff.mp (Option.mem_toList.mp hlast)
    rfl

/-- What somebody's leaving a session comes to. `s` is the session before, with their entry in it,
and `s'` the session afterwards. -/
structure LetsGo (e : Engine) (sessionId userId : String) (now : Clock) (s s' : Session)
    (entry : Participant) (e' : Engine) : Prop where
  before : e.sessions.get? sessionId = some s
  after : e'.sessions.get? sessionId = some s'
  session : s.LetsGo userId (now.acting sessionId) s' entry
  gone : ¬e'.Located userId sessionId
  /-- The others are those who are there now, and they are in the session still. -/
  present_iff : ∀ user, e'.IsPresent user sessionId ↔ s.isOnline user = true ∧ user ≠ userId
  remaining : ∀ user, e'.IsPresent user sessionId →
    e.Located user sessionId ∧ e'.Located user sessionId ∧ user ∈ e'.gateway.subscribers sessionId
  /-- They, and nobody else, are told that the user has left, and then of the end of the session, if
  this is its end. -/
  tells : e.Tells sessionId
    (.left userId :: if s.EndsWithout userId then [.ended .hostLeft] else [])
    (.userLeft userId entry.userName s'.onlineCount ::
      if s.EndsWithout userId then [.sessionEnded .hostLeft] else []) (now.recording sessionId) e'

/-- Whoever leaves a session they are in is let go. -/
theorem Reachable.exists_letsGo (he : e.Reachable config) (hlocated : e.Located userId sessionId)
    (hquits : command.Quits userId sessionId) (hok : Outcome e now command answer e') :
    ∃ s s' entry, e.LetsGo sessionId userId now s s' entry e' := by
  have hbalanced := he.coherent.balanced
  have hbalanced' : e'.Balanced := hbalanced.outcome he.coherent.fresh hok
  obtain ⟨s, hs, hon⟩ := (hbalanced.present_iff userId sessionId).mpr hlocated
  have hused : sessionId ≠ e.freshSessionId := by
    rintro rfl
    rw [he.coherent.fresh] at hs
    cases hs
  have hgone := hok.not_located hquits hused
  have habsent : ∀ t, e'.sessions.get? sessionId = some t → t.isOnline userId = false := by
    intro t ht
    rw [Bool.eq_false_iff, ne_eq, hbalanced'.isOnline_iff ht]
    exact hgone
  obtain ⟨departure, s', hdepart, hadvance⟩ :=
    (he.coherent.outcome_dossier hok sessionId).exists_departure hquits.mover? hs hon habsent
  have hs' : e'.sessions.get? sessionId = some s' := congrArg Dossier.session hadvance
  have hsound := he.sound hs
  obtain ⟨entry, hletsGo, hname⟩ := hsound.letsGo hon hdepart
  have hpresent : ∀ user, e'.IsPresent user sessionId ↔ s.isOnline user = true ∧ user ≠ userId :=
    fun user => by
      rw [hbalanced'.present_iff, ← hbalanced'.isOnline_iff hs',
        Session.isOnline_depart_iff hdepart]
  refine ⟨s, s', entry, hs, hs', hletsGo, hgone, hpresent, fun user huser => ⟨?_, ?_, ?_⟩, ?_⟩
  · exact (hbalanced.isOnline_iff hs).mp ((hpresent user).mp huser).1
  · exact (hbalanced'.present_iff user sessionId).mp huser
  · rw [Gateway.mem_subscribers_iff, hbalanced'.subscribed_iff]
    exact (hbalanced'.present_iff user sessionId).mp huser
  · rw [← departureFacts_eq hsound hdepart, ← departureNotices_eq hsound hdepart hname]
    have hstep := outcome_iff.mp hok
    exact he.wellKept.tells_step hs (congrArg Prod.snd hstep) hadvance actor?_departureNotices

/-- **What leaving comes to, in every state and for everybody.** Whoever is in a session can leave
it, and whichever way they do, the session lets them go. Whoever is in none is told so, and nothing
changes. -/
theorem leaving_outcome (he : e.Reachable config) (userId : String) (now : Clock) :
    (∀ sessionId, e.Located userId sessionId →
      (∃ e', e.leave userId now = .ok (true, e')) ∧
      ∀ command answer e', command.Quits userId sessionId →
        e.step now command = (.ok answer, e') →
          ∃ s s' entry, e.LetsGo sessionId userId now s s' entry e') ∧
    (e.whereabouts.get? userId = none → Text.isBlank userId = false →
      e.leave userId now = .ok (false, e)) := by
  refine ⟨fun sessionId hlocated => ⟨?_, fun command answer e' hquits hstep => ?_⟩,
    fun hnowhere huser => ?_⟩
  · have huser := he.isBlank_of_located hlocated
    rw [Located] at hlocated
    refine ⟨e.vacate userId now, ?_⟩
    rw [leave_eq, require_of_not_blank huser, hlocated]
    rfl
  · exact he.exists_letsGo hlocated hquits (outcome_iff.mpr hstep)
  · rw [leave_eq, require_of_not_blank huser, vacate, hnowhere]
    rfl

/-- Ada and Bob are in a session of Ada's. Bob leaves it and Ada stays; if Ada goes over to Cy, her
session ends. -/
theorem leaving_outcome_threeSessions :
    let e := (Engine.new .default).after threeSessions
    let command := Command.join "$s1" "ada" "Ada" .participant
    e.Reachable .default ∧ e.Located "bob" "$s0" ∧ e.Located "ada" "$s0" ∧
      (∃ e', e.leave "bob" (.still ⟨4, 0⟩) = .ok (true, e')) ∧
      command.Quits "ada" "$s0" ∧
      (∃ answer e' s s' entry, e.step (.still ⟨4, 0⟩) command = (.ok answer, e') ∧
        e.LetsGo "$s0" "ada" (.still ⟨4, 0⟩) s s' entry e' ∧ s.EndsWithout "ada") ∧
      e.whereabouts.get? "eve" = none ∧ Text.isBlank "eve" = false ∧
      e.leave "eve" (.still ⟨4, 0⟩) = .ok (false, e) := by
  intro e command
  have he : e.Reachable .default := Reachable.new.after threeSessions
  have hbob : e.whereabouts.get? "bob" = some "$s0" := by decide +kernel
  have hada : e.whereabouts.get? "ada" = some "$s0" := by decide +kernel
  have heve : e.whereabouts.get? "eve" = none := by decide +kernel
  have heveId : Text.isBlank "eve" = false := by decide
  have hquits : command.Quits "ada" "$s0" := ⟨rfl, by decide⟩
  have hends : ∃ s ∈ e.sessions.get? "$s0", s.EndsWithout "ada" := by decide +kernel
  have hsucceeds : (e.step (.still ⟨4, 0⟩) command).1.isOk = true := by decide +kernel
  obtain ⟨hleave, -⟩ := (leaving_outcome he "bob" (.still ⟨4, 0⟩)).1 "$s0" hbob
  have hnowhere := (leaving_outcome he "eve" (.still ⟨4, 0⟩)).2 heve heveId
  refine ⟨he, hbob, hada, hleave, hquits, ?_, heve, heveId, hnowhere⟩
  rcases e.step_cases (.still ⟨4, 0⟩) command with ⟨error, hstep⟩ | ⟨answer, e', -, hstep⟩
  · rw [hstep] at hsucceeds
    cases hsucceeds
  · obtain ⟨s, s', entry, hletsGo⟩ :=
      ((leaving_outcome he "ada" (.still ⟨4, 0⟩)).1 "$s0" hada).2 command answer e' hquits hstep
    obtain ⟨t, ht, hlast⟩ := hends
    obtain rfl := Option.some.inj (hletsGo.before.symm.trans ht)
    exact ⟨answer, e', s, s', entry, hstep, hletsGo, hlast⟩

end Engine

end CoEdit

import CoEdit.Proofs.Engine.Presence
import CoEdit.Proofs.Engine.Turn
import Std.Data.String.ToNat

/-!
# Every Command Is a Step of Every Session

Whatever command is given, each single session sees one of the steps of `Dossier.Step`, or its own
creation: the session that a user leaves and the one they come to both take a turn, a sweep gives a
session up or removes it but does not do both, and all other sessions see nothing. For this an
engine must be *coherent*: its tables agree, and nothing is kept yet under the session ids that are
still to be given out.

## Main definitions

* `Engine.Coherent`.

## Main results

* `Coherent.step_dossier`: every command is a step of the dossier of every session.
* `Coherent.step`, `coherent_new`: engines are coherent from the start and stay so.
-/

namespace CoEdit.Engine

open CoEdit.Time (Instant)

variable {e e' : Engine} {m : Moment} {sessionId userId key : String} {now : Clock}
  {seated : String → String → Prop}

/-- Connections show in no dossier. -/
theorem dossier_connect (line : Line) :
    ({ e with gateway := (e.gateway.connect userId line).2 } : Engine).dossier key =
      e.dossier key := by
  cases line <;> rfl

/-! ### Departures -/

namespace Seating

/-- Somebody's leaving is a turn of the session they leave. -/
theorem turned_departFrom (h : e.Seating seated) (hseat : seated userId sessionId)
    (hmover : m.command.mover? = some userId) :
    Dossier.Turned e.config m sessionId (e.dossier sessionId)
      ((e.departFrom sessionId userId m.clock).dossier sessionId) := by
  obtain ⟨s, s', departure, hs, hid, hon, hd, heq⟩ := h.exists_departFrom hseat m.clock
  subst hid
  refine ⟨s, _, _, s', hs, rfl, .depart hmover hon hd, ?_⟩
  rw [heq, dossier_dismiss_tell (Session.sameTerms_depart hd).id, if_pos rfl,
    Moment.times_of_mover hmover]
  rfl

/-- It has nothing to do with any other session. -/
theorem dossier_departFrom_of_ne (h : e.Seating seated) (hseat : seated userId sessionId)
    (hne : key ≠ sessionId) :
    (e.departFrom sessionId userId now).dossier key = e.dossier key := by
  obtain ⟨s, s', departure, -, hid, -, hd, heq⟩ := h.exists_departFrom hseat now
  rw [heq, dossier_dismiss_tell ((Session.sameTerms_depart hd).id.trans hid), if_neg hne]

/-! ### Giving up -/

/-- Giving up one session has nothing to do with any other. -/
theorem dossier_endIdle_of_ne (h : e.Seating seated) (asOf : Instant) (hne : key ≠ sessionId) :
    (Engine.endIdle asOf now e sessionId).dossier key = e.dossier key := by
  cases hs : e.sessions.get? sessionId with
  | none => rw [endIdle_of_none hs]
  | some s =>
      have hid : (s.close asOf).2.id = sessionId := Session.sameTerms_close.id.trans (h.id_eq hs)
      rw [endIdle_eq hs]
      exact (dossier_store_tell hid rfl _ _).trans (if_neg hne)

/-- Giving up a session is a turn of it. -/
theorem dossier_endIdle {s : Session} (h : e.Seating seated) (asOf : Instant)
    (hs : e.sessions.get? key = some s) :
    (Engine.endIdle asOf now e key).dossier key =
      (e.dossier key).advance (s.close asOf).2 [.ended .idle] [.sessionEnded .idle]
        (now.recording key) := by
  have hid : (s.close asOf).2.id = key := Session.sameTerms_close.id.trans (h.id_eq hs)
  rw [endIdle_eq hs]
  exact (dossier_store_tell hid rfl _ _).trans (if_pos rfl)

theorem dossier_foldl_endIdle_of_notMem {keys : List String} (h : e.Seating seated)
    (asOf : Instant) (hkey : key ∉ keys) :
    (keys.foldl (Engine.endIdle asOf now) e).dossier key = e.dossier key := by
  induction keys generalizing e with
  | nil => rfl
  | cons other keys ih =>
      obtain ⟨hne, hrest⟩ := not_or.mp (mt List.mem_cons.mpr hkey)
      rw [List.foldl_cons, ih (h.endIdle asOf now) hrest, h.dossier_endIdle_of_ne asOf hne]

/-- Giving up several sessions is one turn of each of them. -/
theorem dossier_foldl_endIdle {keys : List String} {s : Session} (h : e.Seating seated)
    (asOf : Instant) (hnodup : keys.Nodup) (hkey : key ∈ keys)
    (hs : e.sessions.get? key = some s) :
    (keys.foldl (Engine.endIdle asOf now) e).dossier key =
      (e.dossier key).advance (s.close asOf).2 [.ended .idle] [.sessionEnded .idle]
        (now.recording key) := by
  induction keys generalizing e with
  | nil => cases hkey
  | cons other keys ih =>
      obtain ⟨hother, hnodup⟩ := List.nodup_cons.mp hnodup
      rw [List.foldl_cons]
      by_cases heq : key = other
      · subst heq
        rw [(h.endIdle asOf now).dossier_foldl_endIdle_of_notMem asOf hother,
          h.dossier_endIdle asOf hs]
      · have hsame : (Engine.endIdle asOf now e other).dossier key = e.dossier key :=
          h.dossier_endIdle_of_ne asOf heq
        have hs' : (Engine.endIdle asOf now e other).sessions.get? key = some s :=
          (congrArg Dossier.session hsame).trans hs
        rw [ih (h.endIdle asOf now) hnodup ((List.mem_cons.mp hkey).resolve_left heq) hs', hsame]

end Seating

/-! ### Removing -/

theorem dossier_removeSession :
    (e.removeSession sessionId).dossier key =
      if key = sessionId then { e.dossier key with session := none } else e.dossier key := by
  simp only [dossier, removeSession, Table.get?_erase, Gateway.dropSession]
  split <;> rfl

/-- Removing sessions takes their states away and leaves everything else. -/
theorem dossier_foldl_removeSession (keys : List String) :
    (keys.foldl removeSession e).dossier key =
      if key ∈ keys then { e.dossier key with session := none } else e.dossier key := by
  induction keys generalizing e with
  | nil => simp
  | cons other keys ih =>
      rw [List.foldl_cons, ih, dossier_removeSession]
      by_cases heq : key = other
      · simp [heq]
      · simp [heq]

/-! ### What a sweep finds -/

/-- The ids of the sessions that pass a test are those under which the look-up finds them. -/
theorem Seating.mem_ids_iff (h : e.Seating seated) (test : Session → Bool) :
    key ∈ (e.sessions.values.filter test).map Session.id ↔
      ∃ s, e.sessions.get? key = some s ∧ test s = true := by
  simp only [List.mem_map, List.mem_filter, Table.values]
  constructor
  · rintro ⟨s, ⟨⟨⟨other, t⟩, hentry, rfl⟩, htest⟩, rfl⟩
    have hget := Table.mem_entries_iff.mp hentry
    rw [h.id_eq hget]
    exact ⟨t, hget, htest⟩
  · rintro ⟨s, hget, htest⟩
    exact ⟨s, ⟨⟨(key, s), Table.mem_entries_iff.mpr hget, rfl⟩, htest⟩, h.id_eq hget⟩

/-- No session is found twice. -/
theorem Seating.nodup_ids (h : e.Seating seated) (test : Session → Bool) :
    ((e.sessions.values.filter test).map Session.id).Nodup := by
  have hkeys : e.sessions.values.map Session.id = e.sessions.entries.map Prod.fst := by
    rw [Table.values, List.map_map]
    exact List.map_congr_left fun entry hentry => h.id_eq (Table.mem_entries_iff.mp hentry)
  have hsub := (List.filter_sublist (p := test) (l := e.sessions.values)).map Session.id
  rw [hkeys] at hsub
  exact hsub.nodup e.sessions.nodup

/-! ### Operations as steps -/

/-- Emptying a user's place is a turn of the session they are in, and nothing to any other. -/
theorem Balanced.dossier_vacate (h : e.Balanced) (hmover : m.command.mover? = some userId)
    (key : String) :
    (e.vacate userId m.clock).dossier key = e.dossier key ∨
      Dossier.Turned e.config m key (e.dossier key) ((e.vacate userId m.clock).dossier key) := by
  rw [Engine.vacate]
  split
  · exact .inl rfl
  · next previous hprevious =>
    have hseating : (e.displace userId).Seating e.Located := h.congr rfl rfl
    by_cases hkey : key = previous
    · subst hkey
      exact .inr (hseating.turned_departFrom hprevious hmover)
    · exact .inl (hseating.dossier_departFrom_of_ne hprevious hkey)

/-- A moment that is neither an edit nor the creation of a session is a step of it, if it leaves its
dossier alone or is a turn. -/
theorem step_of_same_or_turned {d d' : Dossier} {config : Config}
    (h : d' = d ∨ Dossier.Turned config m key d d') (hedit : m.edit? key = none)
    (hcreation : m.creation? key = none) : Dossier.Step config m key d d' := by
  rcases h with rfl | hturned
  · exact .quiet hedit hcreation
  · exact .turn hcreation hturned

/-- What installing a session does to the dossiers. -/
theorem dossier_install {s : Session} {hostName : String} :
    (e.install s hostName now).dossier key =
      if key = s.id then (e.dossier key).advance s
        [.created s.hostId hostName s.title s.language s.content] [] fun _ => now.acting s.id
      else e.dossier key :=
  dossier_store_tell rfl Gateway.log_subscribe _ _

/-- What an arrival does to the dossiers. -/
theorem dossier_welcome {s : Session} {admission : Admission} (hid : s.id = sessionId) :
    (e.welcome sessionId userId admission s now).dossier key =
      if key = sessionId then (e.dossier key).advance s (arrivalFacts userId admission)
        [arrivalNotice userId admission s] (now.recording sessionId)
      else e.dossier key :=
  dossier_store_tell hid Gateway.log_subscribe _ _

/-- Joining is a turn of the session joined, and of the one left for it. -/
theorem Balanced.step_join {userName : String} {role : Role} {snapshot : Snapshot}
    (h : e.Balanced) (hok : e.join sessionId userId userName role now = .ok (snapshot, e'))
    (key : String) :
    Dossier.Step e.config ⟨now, .join sessionId userId userName role, .ok (.session snapshot)⟩ key
      (e.dossier key) (e'.dossier key) := by
  obtain ⟨s, s', admission, hs, hjoin, rfl, rfl⟩ := join_ok hok
  have hid : s'.id = sessionId := (Session.sameTerms_join hjoin).id.trans (h.id_eq hs)
  have harrive : (e.welcome sessionId userId admission s' now).dossier key = e.dossier key ∨
      Dossier.Turned e.config
        ⟨now, .join sessionId userId userName role, .ok (.session s'.snapshot)⟩ key
        (e.dossier key) ((e.welcome sessionId userId admission s' now).dossier key) := by
    rw [dossier_welcome hid]
    by_cases hkey : key = sessionId
    · obtain rfl := h.id_eq hs
      rw [if_pos hkey]
      subst hkey
      exact .inr ⟨s, _, _, s', hs, rfl, .arrive rfl rfl hjoin, rfl⟩
    · exact .inl (if_neg hkey)
  refine step_of_same_or_turned ?_ rfl rfl
  by_cases hstay : ∀ previous, e.whereabouts.get? userId = some previous → previous = sessionId
  · rw [leaveBehind_of_forall hstay]
    exact harrive
  · simp only [not_forall] at hstay
    obtain ⟨previous, hprevious, hother⟩ := hstay
    rw [hprevious, leaveBehind_of_ne hother]
    have hseating := h.welcome hs hjoin
    by_cases hkey : key = previous
    · subst hkey
      have hsame : (e.welcome sessionId userId admission s' now).dossier key = e.dossier key := by
        rw [dossier_welcome hid, if_neg hother]
      rw [← hsame]
      exact .inr (hseating.turned_departFrom (.inl hprevious) rfl)
    · rw [hseating.dossier_departFrom_of_ne (.inl hprevious) hkey]
      exact harrive

/-- Leaving is a turn of the session left. -/
theorem Balanced.step_leave {left : Bool} (h : e.Balanced)
    (hok : e.leave userId now = .ok (left, e')) (key : String) :
    Dossier.Step e.config ⟨now, .leave userId, .ok (.flag left)⟩ key
      (e.dossier key) (e'.dossier key) := by
  have hmover : (⟨now, .leave userId, .ok (.flag left)⟩ : Moment).command.mover? = some userId :=
    rfl
  rw [leave_ok hok]
  exact step_of_same_or_turned (h.dossier_vacate hmover key) rfl rfl

/-- Storing a session that has taken a turn, and telling of it. -/
theorem step_store {s s' : Session} {facts : List Fact} {told : List (Notice × Option String)}
    {stamps : Stamps} (hs : e.sessions.get? s.id = some s)
    (hturn : Turn e.config m s facts (told.map (·.1)) s')
    (hstamps : stamps.recorded = m.times s.id) (hedit : key ≠ s.id → m.edit? key = none)
    (hcreation : m.creation? key = none) :
    Dossier.Step e.config m key (e.dossier key)
      (((e.putSession s').tell s.id facts told stamps).dossier key) := by
  have hdossier : ((e.putSession s').tell s.id facts told stamps).dossier key =
      if key = s.id then (e.dossier key).advance s' facts (told.map (·.1)) stamps.recorded
      else e.dossier key := dossier_store_tell hturn.sameTerms.id rfl facts told
  by_cases hkey : key = s.id
  · subst hkey
    rw [hdossier, if_pos rfl, hstamps]
    exact .turn hcreation ⟨s, facts, _, s', hs, rfl, hturn, rfl⟩
  · rw [hdossier, if_neg hkey]
    exact .quiet (hedit hkey) hcreation

/-- An edit is a turn of the session edited. -/
theorem Balanced.step_change {authorId : String} {op : Operation} {change : Change}
    (h : e.Balanced) (hok : e.change sessionId authorId op now = .ok (change, e'))
    (key : String) :
    Dossier.Step e.config ⟨now, .change sessionId authorId op, .ok (.change change)⟩ key
      (e.dossier key) (e'.dossier key) := by
  obtain ⟨s, s', hs, -, hedit, rfl⟩ := change_ok hok
  obtain rfl := h.id_eq hs
  have hturn : Turn e.config ⟨now, .change s.id authorId op, .ok (.change change)⟩ s
      [.changed change] [.codeChange change (limitHistory e.config s').content]
      (limitHistory e.config s') := .edit rfl rfl hedit
  exact step_store hs hturn rfl (fun hne => if_neg (Ne.symm hne)) rfl

/-- Pointing is a turn of the session that the user is in. -/
theorem Balanced.step_cursor {position : Nat} {u : Unit} (h : e.Balanced)
    (hok : e.cursor userId position now = .ok (u, e')) (key : String) :
    Dossier.Step e.config ⟨now, .cursor userId position, .ok .done⟩ key
      (e.dossier key) (e'.dossier key) := by
  obtain ⟨sessionId, s, s', entry, -, hs, hmove, rfl⟩ := cursor_ok hok
  obtain rfl := h.id_eq hs
  have hturn : Turn e.config ⟨now, .cursor userId position, .ok .done⟩ s []
      [.cursorUpdate userId entry.userName position entry.color] s' := .point rfl hmove
  exact step_store hs hturn rfl (fun _ => rfl) rfl

/-- A call for help is a turn of the session it is made in. -/
theorem Balanced.step_assist {message : Option String} {u : Unit} (h : e.Balanced)
    (hok : e.assist sessionId userId message now = .ok (u, e')) (key : String) :
    Dossier.Step e.config ⟨now, .assist sessionId userId message, .ok .done⟩ key
      (e.dossier key) (e'.dossier key) := by
  obtain ⟨s, s', entry, hs, hrequest, rfl⟩ := assist_ok hok
  obtain rfl := h.id_eq hs
  have hturn : Turn e.config ⟨now, .assist s.id userId message, .ok .done⟩ s
      [.helpRequested userId message] [.helpRequested userId entry.userName message] s' :=
    .help rfl hrequest
  exact step_store hs hturn rfl (fun _ => rfl) rfl

/-- A session given up in a sweep is not removed in the same sweep. -/
theorem not_isAbandoned_of_isExpired {config : Config} {s : Session} {asOf : Instant}
    (h : isExpired config s asOf = true) : isAbandoned config s asOf = false := by
  have hended : s.status = .ended := by
    simp only [isExpired, Bool.and_eq_true, decide_eq_true_eq] at h
    exact h.1
  simp [isAbandoned, Session.isIdle, hended]

/-- A sweep removes a session, or gives it up, or has nothing to do with it. -/
theorem Balanced.step_sweep (h : e.Balanced) (asOf : Instant) (now : Clock) (key : String) :
    Dossier.Step e.config ⟨now, .sweep asOf, .ok (.report (e.sweep asOf now).1)⟩ key
      (e.dossier key) ((e.sweep asOf now).2.dossier key) := by
  change Dossier.Step _ _ _ _ ((e.swept asOf now).dossier key)
  rw [swept, dossier_foldl_removeSession]
  by_cases hexpired : key ∈ e.expired asOf
  · rw [if_pos hexpired]
    obtain ⟨s, hs, htest⟩ := (h.mem_ids_iff _).mp hexpired
    have hnot : key ∉ e.abandoned asOf := fun habandoned => by
      obtain ⟨t, ht, hidle⟩ := (h.mem_ids_iff _).mp habandoned
      obtain rfl := Option.some.inj (hs.symm.trans ht)
      rw [not_isAbandoned_of_isExpired htest] at hidle
      cases hidle
    rw [h.dossier_foldl_endIdle_of_notMem asOf hnot]
    exact .remove hs rfl htest
  · rw [if_neg hexpired]
    by_cases habandoned : key ∈ e.abandoned asOf
    · obtain ⟨s, hs, hidle⟩ := (h.mem_ids_iff _).mp habandoned
      have hnodup : (e.abandoned asOf).Nodup := h.nodup_ids _
      rw [h.dossier_foldl_endIdle asOf hnodup habandoned hs]
      exact .turn rfl ⟨s, _, _, _, hs, h.id_eq hs, .giveUp rfl hidle, rfl⟩
    · rw [h.dossier_foldl_endIdle_of_notMem asOf habandoned]
      exact .quiet rfl rfl

/-! ### Coherence -/

/-- The id of the session created after `n` others. -/
def sessionName (n : Nat) : String :=
  "$s" ++ toString n

theorem sessionName_injective : Function.Injective sessionName := fun _ _ h =>
  Nat.repr_injective ((String.append_right_inj "$s").mp h)

/-- The tables agree, and there is nothing yet about the sessions that are still to be created. -/
structure Coherent (e : Engine) : Prop where
  balanced : e.Balanced
  unseen : ∀ n, e.sessionsMade ≤ n → e.dossier (sessionName n) = .blank (sessionName n)

namespace Coherent

/-- The next session id is not in use. -/
theorem fresh (h : e.Coherent) : e.sessions.get? e.freshSessionId = none :=
  congrArg Dossier.session (h.unseen e.sessionsMade (Nat.le_refl _))

/-- Creating a session begins its dossier, and is a turn of the session that the host leaves. -/
theorem step_create {hostId hostName assignmentId : String} {options : SessionOptions}
    {snapshot : Snapshot} (h : e.Coherent)
    (hok : e.create hostId hostName assignmentId options now = .ok (snapshot, e'))
    (key : String) :
    Dossier.Moved e.config
      ⟨now, .create hostId hostName assignmentId options, .ok (.session snapshot)⟩ key
      (e.dossier key) (e'.dossier key) := by
  obtain ⟨settings, hsettings, hsnapshot, rfl⟩ := create_ok hok
  have hmover : (⟨now, .create hostId hostName assignmentId options, .ok (.session snapshot)⟩ :
    Moment).command.mover? = some hostId := rfl
  have hvacate := h.balanced.dossier_vacate hmover key
  subst hsnapshot
  rw [dossier_install]
  split
  · next hkey =>
    obtain rfl : key = e.freshSessionId := hkey
    have hunseen : e.dossier e.freshSessionId = .blank e.freshSessionId :=
      h.unseen e.sessionsMade (Nat.le_refl _)
    rw [hunseen] at hvacate ⊢
    rcases hvacate with hsame | ⟨s, -, -, -, hs, -⟩
    · rw [hsame]
      exact .inr ⟨rfl, .created rfl hsettings rfl rfl⟩
    · cases hs
  · next hkey => exact .inl (step_of_same_or_turned hvacate rfl (if_neg (Ne.symm hkey)))

/-- Every command that succeeds moves the dossier of every session. -/
theorem outcome_dossier {command : Command} {answer : Answer} (h : e.Coherent)
    (hok : Outcome e now command answer e') (key : String) :
    Dossier.Moved e.config ⟨now, command, .ok answer⟩ key (e.dossier key) (e'.dossier key) := by
  cases hok with
  | create hok => exact h.step_create hok key
  | join hok => exact .inl (h.balanced.step_join hok key)
  | leave hok => exact .inl (h.balanced.step_leave hok key)
  | change hok => exact .inl (h.balanced.step_change hok key)
  | cursor hok => exact .inl (h.balanced.step_cursor hok key)
  | assist hok => exact .inl (h.balanced.step_assist hok key)
  | connect userId line =>
      rw [dossier_connect]
      exact .inl (.quiet rfl rfl)
  | disconnect userId => exact .inl (.quiet rfl rfl)
  | sweep asOf => exact .inl (h.balanced.step_sweep asOf now key)

/-- **Every command is a step of every session**, or creates it. -/
theorem step_dossier (h : e.Coherent) (now : Clock) (command : Command) (key : String) :
    Dossier.Moved e.config ⟨now, command, (e.step now command).1⟩ key (e.dossier key)
      ((e.step now command).2.dossier key) := by
  rcases e.step_cases now command with ⟨error, hstep⟩ | ⟨answer, e', hok, hstep⟩
  · rw [hstep]
    exact .inl (.quiet (Moment.edit?_of_error rfl) (Moment.creation?_of_error rfl))
  · rw [hstep]
    exact h.outcome_dossier hok key

/-- Coherence is kept by every command. -/
theorem step (h : e.Coherent) (now : Clock) (command : Command) :
    (e.step now command).2.Coherent := by
  rcases e.step_cases now command with ⟨error, hstep⟩ | ⟨answer, e', hok, hstep⟩
  · rw [hstep]
    exact h
  · rw [hstep]
    refine ⟨h.balanced.outcome h.fresh hok, fun n (hn : e'.sessionsMade ≤ n) => ?_⟩
    have hblank := h.unseen n (Nat.le_trans hok.sessionsMade_le hn)
    have hmoved := h.outcome_dossier hok (sessionName n)
    rw [hblank] at hmoved
    rcases hmoved with hstep | ⟨-, hbegun⟩
    · exact hstep.of_blank.1
    · -- The one id that is given out is the next one, so it lies below the new count.
      obtain ⟨s, -, hcreation⟩ := hbegun.creation?
      obtain ⟨⟨_, _, _, _, hcommand⟩, hanswer, hid⟩ := Moment.creation?_eq_some hcreation
      cases hok with
      | create hok =>
          obtain ⟨hfresh, -, hmade⟩ := sessionsMade_create hok
          obtain rfl := Answer.session.inj (Except.ok.inj hanswer)
          have hn' : n = e.sessionsMade := sessionName_injective (hid.symm.trans hfresh)
          omega
      | _ => cases hcommand

end Coherent

/-- Engines are coherent from the start. -/
theorem coherent_new (config : Config) : (Engine.new config).Coherent where
  balanced :=
    { id_eq := fun h => by cases h
      present_iff := fun user key => by
        constructor
        · rintro ⟨s, hs, -⟩
          cases hs
        · intro hlocated
          cases hlocated
      subscribed_iff := fun user key => by
        constructor
        · intro hmem
          cases hmem
        · intro hlocated
          cases hlocated
      noneEmpty := fun key users h => by cases h }
  unseen n _ := rfl

end CoEdit.Engine

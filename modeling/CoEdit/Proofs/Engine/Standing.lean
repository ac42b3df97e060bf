import CoEdit.Proofs.Engine.Admission
import CoEdit.Proofs.Engine.Clock
import CoEdit.Proofs.Engine.Documents
import CoEdit.Proofs.Engine.Footprint
import CoEdit.Proofs.Engine.Numbers

/-!
# Where Things Stand

What can be relied on in every state that an engine can be in, whatever it is asked to do next: its
sessions are sound and on record, and whoever is in one of them has an id. And what an operation
tells of a session, said of the archive and of the gateway together.

## Main definitions

* `Engine.WellKept`: the sessions of an engine are sound and on record, and its tables agree.
* `Engine.Tells`: what is recorded of a session and sent about it between two states.

## Main results

* `Reachable.sound`, `Reachable.facts_ne_nil`: the sessions that are there.
* `Reachable.isBlank_of_located`: the users who are in one.
* `WellKept.tells_step`: a command tells of a session what comes with its turn.
* `session_through`: what holds of a session in the course of a run.
-/

namespace CoEdit

open CoEdit.Time (Instant)

/-- The same entries, the last one first. -/
def Table.reversed {α : Type} (t : Table α) : Table α where
  entries := t.entries.reverse
  nodup := by
    rw [List.map_reverse]
    exact List.nodup_reverse.mpr t.nodup

/-- What is there after a moment is on record, if what was there before it was. -/
theorem Dossier.Moved.facts_ne_nil {config : Config} {m : Moment} {sessionId : String}
    {d d' : Dossier} (h : Moved config m sessionId d d')
    (hd : ∀ s, d.session = some s → d.recording.facts ≠ []) :
    ∀ s, d'.session = some s → d'.recording.facts ≠ [] := by
  intro s hs
  rcases h with hstep | ⟨-, hbegun⟩
  · cases hstep with
    | quiet => exact hd s hs
    | turn _ hturned =>
        obtain ⟨before, facts, notices, after, hbefore, -, -, rfl⟩ := hturned
        simp [advance, Recording.facts_extend, hd before hbefore]
    | remove => cases hs
  · cases hbegun with
    | created => simp [advance, Recording.facts_push]

/-- What is there after a moment was there before it, and is as it was or has taken a turn; or it is
created at the moment. -/
theorem Dossier.Moved.before {config : Config} {m : Moment} {sessionId : String} {d d' : Dossier}
    {s' : Session} (h : Moved config m sessionId d d') (hs' : d'.session = some s') :
    d.session = some s' ∨
      (∃ s facts notices, d.session = some s ∧ Turn config m s facts notices s') ∨
      (d = .blank sessionId ∧ Begun config m sessionId d') := by
  rcases h with hstep | hbegun
  · cases hstep with
    | quiet => exact .inl hs'
    | turn _ hturned =>
        obtain ⟨s, facts, notices, after, hs, -, hturn, rfl⟩ := hturned
        obtain rfl := Option.some.inj hs'
        exact .inr (.inl ⟨s, facts, notices, hs, hturn⟩)
    | remove => cases hs'
  · exact .inr (.inr hbegun)

namespace Engine

variable {config : Config} {e e' : Engine} {sessionId userId key : String} {s : Session}
  {now : Clock} {command : Command} {answer : Answer} {order : Table Session}

/-- The outcomes are those of the steps that succeed. -/
theorem outcome_iff :
    Outcome e now command answer e' ↔ e.step now command = (.ok answer, e') := by
  constructor
  · intro h
    rw [step]
    cases h with
    | create hok | join hok | leave hok | change hok | cursor hok | assist hok =>
        rw [execute, hok]
        rfl
    | connect | disconnect | sweep => rfl
  · intro h
    rcases e.step_cases now command with ⟨error, hstep⟩ | ⟨other, after, hok, hstep⟩
    · rw [hstep] at h
      cases h
    · rw [hstep] at h
      obtain ⟨hanswer, rfl⟩ := Prod.mk.inj h
      obtain rfl := Except.ok.inj hanswer
      exact hok

/-! ### The sessions that are there -/

/-- The sessions of every engine that comes about are sound. -/
theorem Reachable.sound (h : e.Reachable config) (hs : e.sessions.get? sessionId = some s) :
    s.Sound :=
  h.session_invariant (fun _ _ _ _ _ _ _ _ => Session.sound_start) Turn.sound s hs

/-- They are all on record. -/
theorem Reachable.facts_ne_nil (h : e.Reachable config)
    (hs : e.sessions.get? sessionId = some s) : (e.dossier sessionId).recording.facts ≠ [] := by
  refine h.invariant (I := fun e => ∀ s, (e.dossier sessionId).session = some s →
    (e.dossier sessionId).recording.facts ≠ []) nofun ?_ ?_ s hs
  · intro e h now command he
    exact (h.coherent.step_dossier now command sessionId).facts_ne_nil he
  · intro e e' hsame he
    rw [hsame.dossier]
    exact he

/-- What can be relied on about the sessions of an engine, whatever the order in which it keeps
them. -/
structure WellKept (e : Engine) : Prop where
  coherent : e.Coherent
  distinctSubscribers : e.gateway.DistinctSubscribers
  sound : ∀ {key s}, e.sessions.get? key = some s → s.Sound
  facts_ne_nil : ∀ {key s}, e.sessions.get? key = some s → (e.dossier key).recording.facts ≠ []

theorem Reachable.wellKept (h : e.Reachable config) : e.WellKept :=
  ⟨h.coherent, h.distinctSubscribers, h.sound, h.facts_ne_nil⟩

/-- Commands keep the sessions well. -/
theorem WellKept.step (h : e.WellKept) (now : Clock) (command : Command) :
    (e.step now command).2.WellKept where
  coherent := h.coherent.step now command
  distinctSubscribers := by
    rcases e.step_cases now command with ⟨error, hstep⟩ | ⟨answer, e', hok, hstep⟩
    · rw [hstep]
      exact h.distinctSubscribers
    · rw [hstep]
      exact hok.parts.distinctSubscribers h.distinctSubscribers
  sound {key s} hs := by
    refine (h.coherent.step_dossier now command key).session_invariant (I := Session.Sound)
      (fun _ _ _ _ _ _ _ => Session.sound_start) Turn.sound (fun t ht => h.sound ht) s hs
  facts_ne_nil {key s} hs :=
    (h.coherent.step_dossier now command key).facts_ne_nil (fun t ht => h.facts_ne_nil ht) s hs

/-- Sessions are as well kept in another order. -/
theorem WellKept.visiting (h : e.WellKept) (hsame : ∀ key, order.get? key = e.sessions.get? key) :
    (e.visiting order).WellKept where
  coherent := h.coherent.congr (.visiting hsame)
  distinctSubscribers := h.distinctSubscribers
  sound {key s} hs := h.sound ((hsame key).symm.trans hs)
  facts_ne_nil {key s} hs := by
    rw [(SameBooks.visiting hsame).dossier]
    exact h.facts_ne_nil ((hsame key).symm.trans hs)

/-! ### The users who are there -/

theorem not_isBlank_of_require {value : String} {field : Field} {u : Unit}
    (h : require value field = .ok u) : Text.isBlank value = false := by
  rw [require] at h
  split at h
  · cases h
  · next hnot => exact Bool.eq_false_iff.mpr hnot

/-- Nobody without an id gets anything done. -/
theorem Outcome.isBlank_caller (h : Outcome e now command answer e')
    (hcaller : command.caller? = some userId) : Text.isBlank userId = false := by
  cases h with
  | create hok =>
      obtain rfl := Option.some.inj hcaller
      rw [create_eq] at hok
      obtain ⟨_, hrequire, -⟩ := bind_eq_ok.mp hok
      exact not_isBlank_of_require hrequire
  | join hok =>
      obtain rfl := Option.some.inj hcaller
      rw [join_eq] at hok
      obtain ⟨_, -, hok⟩ := bind_eq_ok.mp hok
      obtain ⟨_, hrequire, -⟩ := bind_eq_ok.mp hok
      exact not_isBlank_of_require hrequire
  | leave hok =>
      obtain rfl := Option.some.inj hcaller
      rw [leave_eq] at hok
      obtain ⟨_, hrequire, -⟩ := bind_eq_ok.mp hok
      exact not_isBlank_of_require hrequire
  | change hok =>
      obtain rfl := Option.some.inj hcaller
      rw [change_eq] at hok
      obtain ⟨_, -, hok⟩ := bind_eq_ok.mp hok
      obtain ⟨_, hrequire, -⟩ := bind_eq_ok.mp hok
      exact not_isBlank_of_require hrequire
  | cursor hok =>
      obtain rfl := Option.some.inj hcaller
      rw [cursor_eq] at hok
      obtain ⟨_, hrequire, -⟩ := bind_eq_ok.mp hok
      exact not_isBlank_of_require hrequire
  | assist hok =>
      obtain rfl := Option.some.inj hcaller
      rw [assist_eq] at hok
      obtain ⟨_, -, hok⟩ := bind_eq_ok.mp hok
      obtain ⟨_, hrequire, -⟩ := bind_eq_ok.mp hok
      exact not_isBlank_of_require hrequire
  | connect | disconnect | sweep => cases hcaller

/-- Whoever is in a session after a command was in one before it, or gave the command. -/
theorem Outcome.located_or_caller (he : e.Keyed) (h : Outcome e now command answer e')
    (hlocated : e'.Located userId sessionId) :
    e.Located userId sessionId ∨ command.caller? = some userId := by
  cases hcaller : command.caller? with
  | some caller =>
      by_cases huser : userId = caller
      · exact .inr (congrArg some huser.symm)
      · have hother := (h.staysWithin he hcaller).whereabouts userId huser
        exact .inl (hother.symm.trans hlocated)
  | none =>
      refine .inl ?_
      cases h with
      | connect | disconnect => exact hlocated
      | sweep asOf =>
          rw [Located, sweep_eq, Table.get?_filter, Option.filter_eq_some_iff] at hlocated
          rw [Located, ← hlocated.1, swept, whereabouts_foldl_removeSession,
            whereabouts_foldl_endIdle]
      | _ => cases hcaller

/-- Whoever is in a session has an id. -/
theorem Reachable.isBlank_of_located (h : e.Reachable config)
    (hlocated : e.Located userId sessionId) : Text.isBlank userId = false := by
  refine h.of_outcome (I := fun e => ∀ sessionId, e.Located userId sessionId →
    Text.isBlank userId = false) nofun ?_ ?_ sessionId hlocated
  · intro e e' now command answer h hok he sessionId hlocated
    rcases hok.located_or_caller h.coherent.balanced.id_eq hlocated with hold | hcaller
    · exact he sessionId hold
    · exact hok.isBlank_caller hcaller
  · intro e e' hsame he sessionId hlocated
    exact he sessionId (hsame.located_iff.mp hlocated)

/-! ### What is told -/

/-- Between two states these facts are recorded of a session, each at its time, and these notices
are sent about it, in this order and no others, each to the connections of exactly those who are
online in the session afterwards. -/
structure Tells (e : Engine) (sessionId : String) (facts : List Fact) (notices : List Notice)
    (times : Nat → Instant) (e' : Engine) : Prop where
  recorded : ∃ r, e.recording? sessionId = some r ∧
    e'.recording? sessionId = some (r.extend facts times)
  sent : ∃ sent, e'.gateway.log = e.gateway.log ++ sent ∧
    (sent.filter (·.message.sessionId = sessionId)).map (·.message.notice) = notices ∧
    ∀ d ∈ sent, d.message.sessionId = sessionId → ∀ user,
      user ∈ d.audience ↔ e'.IsPresent user sessionId ∧ e'.gateway.isConnected user = true

/-- Nobody else's doing: notices of arrivals, departures and endings are for everybody there. -/
theorem Routes.mem_audience {m : Moment} {sent : List Dispatch} {d : Dispatch}
    (h : e.Routes m sent e') (hd : d ∈ sent) (hactor : d.message.notice.actor? = none)
    (user : String) :
    user ∈ d.audience ↔
      e'.IsPresent user d.message.sessionId ∧ e'.gateway.isConnected user = true := by
  obtain ⟨_, _, _, s', -, -, -, hs', -, haudience⟩ := h.audience d hd
  rw [haudience, hactor, IsPresent, hs']
  simp

/-- **A command tells of a session what comes with its turn**, if the notices are for everybody
there. -/
theorem WellKept.tells_step {facts : List Fact} {notices : List Notice} {times : Nat → Instant}
    {s' : Session} (h : e.WellKept) (hs : e.sessions.get? key = some s)
    (hstep : (e.step now command).2 = e')
    (hadvance : e'.dossier key = (e.dossier key).advance s' facts notices times)
    (hactor : ∀ n ∈ notices, n.actor? = none) : e.Tells key facts notices times e' := by
  subst hstep
  obtain ⟨sent, hroutes⟩ := h.coherent.exists_routes h.distinctSubscribers now command
  have hseen := h.facts_ne_nil hs
  have hrecording : ((e.step now command).2.dossier key).recording =
      (e.dossier key).recording.extend facts times := congrArg Dossier.recording hadvance
  have hnotices : ((e.step now command).2.dossier key).notices =
      (e.dossier key).notices ++ notices := congrArg Dossier.notices hadvance
  have hsent : (sent.filter (·.message.sessionId = key)).map (·.message.notice) = notices := by
    rw [dossier, dossier, hroutes.log, List.filter_append, List.map_append] at hnotices
    exact List.append_cancel_left hnotices
  refine ⟨⟨_, recording?_eq_some hseen, ?_⟩, sent, hroutes.log, hsent, fun d hd hkey => ?_⟩
  · rw [← hrecording]
    refine recording?_eq_some ?_
    rw [hrecording, Recording.facts_extend]
    exact List.append_ne_nil_of_left_ne_nil hseen _
  · have hnotice : d.message.notice ∈ notices := by
      rw [← hsent]
      exact List.mem_map_of_mem (f := fun d : Dispatch => d.message.notice)
        (List.mem_filter.mpr ⟨hd, decide_eq_true hkey⟩)
    subst hkey
    exact hroutes.mem_audience hd (hactor _ hnotice)

/-! ### Runs -/

/-- What is on record stays on record. -/
theorem Reachable.facts_ne_nil_meet (h : e.Reachable config)
    (hseen : (e.dossier sessionId).recording.facts ≠ []) (x : Event) :
    ((e.meet x).dossier sessionId).recording.facts ≠ [] := by
  rcases e.meet_cases x with ⟨now, command, rfl⟩ | hsame
  · obtain ⟨new, hentries, -⟩ := (h.coherent.step_dossier now command sessionId).exists_entries
    rw [Recording.facts, Engine.meet, hentries, List.map_append]
    exact List.append_ne_nil_of_left_ne_nil hseen _
  · rw [hsame.dossier]
    exact hseen

theorem Reachable.facts_ne_nil_through (h : e.Reachable config)
    (hseen : (e.dossier sessionId).recording.facts ≠ []) (xs : List Event) :
    ((e.through xs).dossier sessionId).recording.facts ≠ [] := by
  induction xs generalizing e with
  | nil => exact hseen
  | cons x xs ih => exact ih (h.meet x) (h.facts_ne_nil_meet hseen x)

theorem through_append (e : Engine) (past rest : List Event) :
    e.through (past ++ rest) = (e.through past).through rest :=
  List.foldl_append

/-- **What holds of a session in the course of a run.** It may speak of the run so far. It is to
hold when the session is created, to be kept by its turns, and not to depend on what else
happens. -/
theorem session_through {P : List Event → Session → Prop}
    (hbegun : ∀ {xs now command d s}, Dossier.Begun config
      ⟨now, command, (((Engine.new config).through xs).step now command).1⟩ sessionId d →
        d.session = some s → P (xs ++ [.give now command]) s)
    (hturn : ∀ {xs now command s facts notices s'}, Turn config
      ⟨now, command, (((Engine.new config).through xs).step now command).1⟩ s facts notices s' →
        ((Engine.new config).through xs).sessions.get? sessionId = some s →
        ((Engine.new config).through (xs ++ [.give now command])).sessions.get? sessionId =
          some s' → P xs s → P (xs ++ [.give now command]) s')
    (hquiet : ∀ {xs x s}, P xs s → P (xs ++ [x]) s) (xs : List Event) :
    ∀ s, ((Engine.new config).through xs).sessions.get? sessionId = some s → P xs s := by
  induction xs using List.reverseRecOn with
  | nil => exact nofun
  | append_singleton xs x ih =>
      intro s hs
      have hafter := hs
      have he : ((Engine.new config).through xs).Reachable config := Reachable.new.through xs
      rw [through_concat] at hs
      rcases meet_cases _ x with ⟨now, command, rfl⟩ | hsame
      · have hmoved := he.coherent.step_dossier now command sessionId
        rw [he.config_eq] at hmoved
        rcases hmoved.before hs with
          hsame | ⟨before, facts, notices, hbefore, hturned⟩ | ⟨-, hborn⟩
        · exact hquiet (ih s hsame)
        · exact hturn hturned hbefore hafter (ih before hbefore)
        · exact hbegun hborn hs
      · exact hquiet (ih s ((hsame.session sessionId).symm.trans hs))

end Engine

end CoEdit

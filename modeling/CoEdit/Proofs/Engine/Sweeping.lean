import CoEdit.Proofs.Engine.Standing
import CoEdit.Proofs.Time.Elapsed

/-!
# What a Sweep Comes To

A sweep removes the sessions that ended long enough ago, gives up those that have waited too long,
and touches nothing else. It does not matter in which order it comes by the sessions. What it has
given up it does not remove, and what it has done once it does not do again at the same time.

## Main definitions

* `Engine.Sweeps`: what a sweep does to the sessions, their users, and their recordings.
* `EndedAt`: when a session ended in the course of a run.

## Main results

* `WellKept.sweeps`: every sweep does this.
* `Sweeps.again`: a second sweep finds nothing to do.
* `le_updatedAt_of_endedAt`: a session's mark of activity is no earlier than its end.
* `sweep_outcome`: sweeping, in every state, in every order, as of any time.
* `sweep_not_always_marks`: where the time of a sweep is not what a session is marked with, or not
  when its end is recorded.
-/

namespace CoEdit

open CoEdit.Time (Instant)

namespace Engine

variable {config : Config} {e e' : Engine} {sessionId userId key : String} {s : Session}
  {asOf : Instant} {now : Clock} {report : SweepReport} {order : Table Session}

/-! ### Giving up and removing -/

/-- Giving sessions up concerns these sessions. -/
theorem Seating.staysWithin_foldl_endIdle {seated : String → String → Prop} (h : e.Seating seated)
    (asOf : Instant) (keys : List String) :
    StaysWithin keys userId e (keys.foldl (Engine.endIdle asOf now) e) := by
  induction keys generalizing e with
  | nil => exact .refl _ userId e
  | cons key keys ih =>
      have hone : StaysWithin [key] userId e (Engine.endIdle asOf now e key) := by
        cases hs : e.sessions.get? key with
        | none =>
            rw [endIdle_of_none hs]
            exact .refl _ userId e
        | some s =>
            rw [endIdle_eq hs]
            exact staysWithin_store_tell h.id_eq hs Session.sameTerms_close _ _ _
      refine (hone.mono ?_).trans ((ih (h.endIdle asOf now)).mono (List.subset_cons_self _ _))
      exact List.cons_subset_cons _ (List.nil_subset _)

/-- Giving sessions up ends no subscription. -/
theorem subscriptions_foldl_endIdle (asOf : Instant) (keys : List String) :
    (keys.foldl (endIdle asOf now) e).gateway.subscriptions = e.gateway.subscriptions := by
  induction keys generalizing e with
  | nil => rfl
  | cons key keys ih =>
      rw [List.foldl_cons, ih, endIdle]
      split <;> rfl

/-- What is removed is in the directory and known to the gateway no more. All the rest is kept, the
recordings too. -/
theorem foldl_removeSession (keys : List String) :
    (keys.foldl removeSession e).archive = e.archive ∧
      (keys.foldl removeSession e).gateway.log = e.gateway.log ∧
      ∀ key, (keys.foldl removeSession e).sessions.get? key =
          (if key ∈ keys then none else e.sessions.get? key) ∧
        (keys.foldl removeSession e).gateway.subscriptions.get? key =
          if key ∈ keys then none else e.gateway.subscriptions.get? key := by
  induction keys generalizing e with
  | nil => exact ⟨rfl, rfl, fun key => ⟨rfl, rfl⟩⟩
  | cons other keys ih =>
      obtain ⟨harchive, hlog, htables⟩ := @ih (e.removeSession other)
      refine ⟨harchive, hlog, fun key => ?_⟩
      obtain ⟨hsessions, hsubscriptions⟩ := htables key
      rw [List.foldl_cons, hsessions, hsubscriptions]
      change (if key ∈ keys then none else (e.sessions.erase other).get? key) = _ ∧
        (if key ∈ keys then none else (e.gateway.subscriptions.erase other).get? key) = _
      rw [Table.get?_erase, Table.get?_erase]
      by_cases hother : key = other
      · simp [hother]
      · simp [hother]

/-- What is removed had ended, and what is given up had not. -/
theorem Balanced.notMem_abandoned (h : e.Balanced) (hkey : key ∈ e.expired asOf) :
    key ∉ e.abandoned asOf := by
  intro habandoned
  obtain ⟨s, hs, hexpired⟩ := (h.mem_ids_iff _).mp hkey
  obtain ⟨t, ht, hidle⟩ := (h.mem_ids_iff _).mp habandoned
  obtain rfl := Option.some.inj (hs.symm.trans ht)
  rw [not_isAbandoned_of_isExpired hexpired] at hidle
  cases hidle

/-! ### Sweeps -/

/-- What a sweep does. It decides as of the time `asOf`, and what it does is told at the times that
the clock shows. -/
structure Sweeps (e : Engine) (asOf : Instant) (now : Clock) (report : SweepReport) (e' : Engine) :
    Prop where
  /-- It removes the sessions that ended long enough ago. -/
  mem_removed : ∀ key, key ∈ report.removed ↔ ∃ s, e.sessions.get? key = some s ∧
    s.status = .ended ∧ nanosOf e.config.endedRetention ≤ asOf.since s.updatedAt
  /-- It gives up the sessions that have waited too long. -/
  mem_idleEnded : ∀ key, key ∈ report.idleEnded ↔ ∃ s, e.sessions.get? key = some s ∧
    s.status = .waiting ∧ nanosOf e.config.idleTimeout ≤ asOf.since s.updatedAt
  /-- Nothing is reported twice. -/
  nodup : (report.removed ++ report.idleEnded).Nodup
  /-- What is removed is there no more, and has no subscribers. -/
  removed : ∀ key ∈ report.removed,
    e'.sessions.get? key = none ∧ e'.gateway.subscriptions.get? key = none
  /-- What is given up has ended as of the time of the sweep; this is recorded and announced. -/
  idleEnded : ∀ key ∈ report.idleEnded, ∃ s, e.sessions.get? key = some s ∧
    e'.sessions.get? key =
      some { s with status := .ended, updatedAt := s.updatedAt.later asOf } ∧
    e.Tells key [.ended .idle] [.sessionEnded .idle] (now.recording key) e'
  /-- All other sessions stay as they are. -/
  session : ∀ key, key ∉ report.removed → key ∉ report.idleEnded →
    e'.sessions.get? key = e.sessions.get? key
  /-- Who was in a session that is removed is in none; everybody else is where they were. -/
  located_iff : ∀ user key, e'.Located user key ↔ e.Located user key ∧ key ∉ report.removed
  subscriptions : ∀ key, key ∉ report.removed →
    e'.gateway.subscriptions.get? key = e.gateway.subscriptions.get? key
  /-- Nothing else is recorded, and no recording is removed. -/
  recording : ∀ key, key ∉ report.idleEnded → e'.recording? key = e.recording? key
  /-- Nothing else is announced. -/
  sent : ∃ sent, e'.gateway.log = e.gateway.log ++ sent ∧
    ∀ d ∈ sent, d.message.sessionId ∈ report.idleEnded

/-- The sessions that a sweep removes. -/
theorem Balanced.mem_expired_iff (h : e.Balanced) :
    key ∈ e.expired asOf ↔ ∃ s, e.sessions.get? key = some s ∧ s.status = .ended ∧
      nanosOf e.config.endedRetention ≤ asOf.since s.updatedAt := by
  rw [expired, h.mem_ids_iff]
  simp only [isExpired, Bool.and_eq_true, decide_eq_true_eq]

/-- The sessions that a sweep gives up. -/
theorem WellKept.mem_abandoned_iff (h : e.WellKept) :
    key ∈ e.abandoned asOf ↔ ∃ s, e.sessions.get? key = some s ∧ s.status = .waiting ∧
      nanosOf e.config.idleTimeout ≤ asOf.since s.updatedAt := by
  rw [abandoned, h.coherent.balanced.mem_ids_iff]
  exact exists_congr fun s => and_congr_right fun hs => (h.sound hs).isIdle_iff asOf _

/-- A session that is given up ends, and this is told. -/
theorem WellKept.sweep_of_mem_abandoned (h : e.WellKept) (hkey : key ∈ e.abandoned asOf) :
    ∃ s, e.sessions.get? key = some s ∧
      (e.sweep asOf now).2.sessions.get? key =
        some { s with status := .ended, updatedAt := s.updatedAt.later asOf } ∧
      e.Tells key [.ended .idle] [.sessionEnded .idle] (now.recording key)
        (e.sweep asOf now).2 := by
  have hbalanced := h.coherent.balanced
  obtain ⟨s, hs, hwaiting, -⟩ := h.mem_abandoned_iff.mp hkey
  have hopen : s.status ≠ .ended := by
    rw [hwaiting]
    exact nofun
  have hkept : key ∉ e.expired asOf := fun hexpired => hbalanced.notMem_abandoned hexpired hkey
  have hnodup : (e.abandoned asOf).Nodup := hbalanced.nodup_ids _
  have hadvance : (e.swept asOf now).dossier key =
      (e.dossier key).advance { s with status := .ended, updatedAt := s.updatedAt.later asOf }
        [.ended .idle] [.sessionEnded .idle] (now.recording key) := by
    rw [swept, dossier_foldl_removeSession, if_neg hkept,
      hbalanced.dossier_foldl_endIdle asOf hnodup hkey hs, Session.close_of_open hopen]
  have hstep : (e.step now (.sweep asOf)).2 = (e.sweep asOf now).2 := rfl
  refine ⟨s, hs, congrArg Dossier.session hadvance, ?_⟩
  exact h.tells_step hs hstep hadvance (by simp [Notice.actor?])

/-- **Every sweep does this.** -/
theorem WellKept.sweeps (h : e.WellKept) (asOf : Instant) (now : Clock) :
    e.Sweeps asOf now (e.sweep asOf now).1 (e.sweep asOf now).2 := by
  have hbalanced := h.coherent.balanced
  obtain ⟨harchive, hlog, htables⟩ := @foldl_removeSession
    ((e.abandoned asOf).foldl (endIdle asOf now) e) (e.expired asOf)
  have hstays : StaysWithin (e.abandoned asOf) "" e
      ((e.abandoned asOf).foldl (endIdle asOf now) e) :=
    hbalanced.staysWithin_foldl_endIdle asOf _
  have hwhere : (e.swept asOf now).whereabouts = e.whereabouts := by
    rw [swept, whereabouts_foldl_removeSession, whereabouts_foldl_endIdle]
  refine ⟨fun key => hbalanced.mem_expired_iff, fun key => h.mem_abandoned_iff, ?_,
    fun key hkey => ⟨?_, ?_⟩, fun key hkey => h.sweep_of_mem_abandoned hkey,
    fun key hexpired habandoned => ?_, fun user key => ?_, fun key hexpired => ?_,
    fun key habandoned => ?_, ?_⟩
  · refine List.nodup_append.mpr ⟨hbalanced.nodup_ids _, hbalanced.nodup_ids _, ?_⟩
    rintro key hexpired _ habandoned rfl
    exact hbalanced.notMem_abandoned hexpired habandoned
  · exact (htables key).1.trans (if_pos hkey)
  · exact (htables key).2.trans (if_pos hkey)
  · refine ((htables key).1.trans (if_neg hexpired)).trans ?_
    exact hstays.session key habandoned
  · rw [Located, Located, sweep_eq, hwhere, Table.get?_filter, Option.filter_eq_some_iff,
      decide_eq_true_eq]
  · refine ((htables key).2.trans (if_neg hexpired)).trans ?_
    rw [subscriptions_foldl_endIdle]
  · refine Eq.trans ?_ (hstays.recording key habandoned)
    exact congrArg (Archive.get? · key) harchive
  · obtain ⟨sent, hsent, harea⟩ := hstays.sent
    exact ⟨sent, hlog.trans hsent, harea⟩

/-- What a sweep does is the same in every order. -/
theorem Sweeps.of_visiting (hsame : ∀ key, order.get? key = e.sessions.get? key)
    (h : (e.visiting order).Sweeps asOf now report e') : e.Sweeps asOf now report e' where
  mem_removed key := by
    rw [← hsame]
    exact h.mem_removed key
  mem_idleEnded key := by
    rw [← hsame]
    exact h.mem_idleEnded key
  nodup := h.nodup
  removed := h.removed
  idleEnded key hkey := by
    rw [← hsame]
    obtain ⟨s, hs, hs', htells⟩ := h.idleEnded key hkey
    exact ⟨s, hs, hs', htells.recorded, htells.sent⟩
  session key hremoved hidle := by
    rw [← hsame]
    exact h.session key hremoved hidle
  located_iff := h.located_iff
  subscriptions := h.subscriptions
  recording := h.recording
  sent := h.sent

/-! ### A second sweep -/

/-- A duration of some seconds is one second at least. -/
theorem second_le_nanosOf {secs : Nat} (h : 0 < secs) :
    (Instant.nanosPerSecond : Int) ≤ nanosOf secs :=
  Int.ofNat_le.mpr (Nat.le_mul_of_pos_left _ h)

/-- A session is marked with the time of the sweep that gives it up. -/
theorem later_eq_of_idle {mark : Instant} {timeout : Nat} (hasOf : asOf.Fits)
    (hclock : ¬asOf.InLeapSecond ∨ 0 < timeout) (h : nanosOf timeout ≤ asOf.since mark) :
    mark.later asOf = asOf := by
  rw [Instant.later_eq_max, max_eq_right_iff]
  rcases hclock with hregular | hpositive
  · exact Instant.le_of_since_nonneg hregular (le_trans (Int.natCast_nonneg _) h)
  · exact Instant.le_of_second_le_since hasOf (le_trans (second_le_nanosOf hpositive) h)

/-- **What a sweep leaves, it would leave again.** What it has given up has just ended, and all the
rest it has already passed by. -/
theorem Sweeps.again (h : e.Sweeps asOf now report e') (hasOf : asOf.Fits)
    (hretention : 0 < e.config.endedRetention) {s' : Session}
    (hs' : e'.sessions.get? key = some s') :
    ¬(s'.status = .ended ∧ nanosOf e.config.endedRetention ≤ asOf.since s'.updatedAt) ∧
      ¬(s'.status = .waiting ∧ nanosOf e.config.idleTimeout ≤ asOf.since s'.updatedAt) := by
  by_cases hremoved : key ∈ report.removed
  · rw [(h.removed key hremoved).1] at hs'
    cases hs'
  by_cases hidle : key ∈ report.idleEnded
  · obtain ⟨s, -, hended, -⟩ := h.idleEnded key hidle
    obtain rfl := Option.some.inj (hended.symm.trans hs')
    refine ⟨fun hexpired => ?_, fun hwaiting => by cases hwaiting.1⟩
    have hjust := Instant.since_later_lt hasOf s.updatedAt
    exact absurd (le_trans (second_le_nanosOf hretention) hexpired.2) (not_le.mpr hjust)
  · rw [h.session key hremoved hidle] at hs'
    exact ⟨fun hexpired => hremoved ((h.mem_removed key).mpr ⟨s', hs', hexpired⟩),
      fun hwaiting => hidle ((h.mem_idleEnded key).mpr ⟨s', hs', hwaiting⟩)⟩

/-- So a second sweep reports nothing. -/
theorem Sweeps.isEmpty_again {again : Clock} {report' : SweepReport} {e'' : Engine}
    (h : e.Sweeps asOf now report e') (hasOf : asOf.Fits)
    (hretention : 0 < e.config.endedRetention) (hconfig : e'.config = e.config)
    (h' : e'.Sweeps asOf again report' e'') : report'.isEmpty = true := by
  have hremoved : report'.removed = [] := List.eq_nil_iff_forall_not_mem.mpr fun key hkey => by
    obtain ⟨s', hs', hexpired⟩ := (h'.mem_removed key).mp hkey
    rw [hconfig] at hexpired
    exact (h.again hasOf hretention hs').1 hexpired
  have hidle : report'.idleEnded = [] := List.eq_nil_iff_forall_not_mem.mpr fun key hkey => by
    obtain ⟨s', hs', hwaiting⟩ := (h'.mem_idleEnded key).mp hkey
    rw [hconfig] at hwaiting
    exact (h.again hasOf hretention hs').2 hwaiting
  rw [SweepReport.isEmpty, hremoved, hidle]
  rfl

end Engine

/-! ### The time since the end -/

/-- The time as of which a command is carried out: a sweep names one, all others are of now. -/
def Command.asOf (now : Instant) : Command → Instant
  | .sweep asOf => asOf
  | _ => now

/-- People leave sessions now. -/
theorem Command.asOf_of_mover {command : Command} {userId : String} {now : Instant}
    (h : command.mover? = some userId) : command.asOf now = now := by
  cases command with
  | sweep => cases h
  | _ => rfl

open Engine in
/-- A turn pushes the mark of a session forward to its time, or leaves mark and status alone. -/
theorem Turn.updatedAt_eq {config : Config} {m : Moment} {s s' : Session} {facts : List Fact}
    {notices : List Notice} (h : Turn config m s facts notices s') :
    s'.updatedAt = s.updatedAt.later (m.command.asOf (m.time s.id)) ∨
      (s'.updatedAt = s.updatedAt ∧ s'.status = s.status) := by
  cases h with
  | arrive hcommand _ hjoin =>
      obtain ⟨-, -, rfl, -⟩ := Session.join_ok hjoin
      rw [hcommand]
      exact .inl rfl
  | depart hmover _ hdepart =>
      obtain ⟨-, -, rfl⟩ := Session.depart_ok hdepart
      rw [Command.asOf_of_mover hmover]
      exact .inl rfl
  | @edit _ _ _ _ edited hcommand _ hedit =>
      have hlimit : (limitHistory config edited).updatedAt = edited.updatedAt :=
        congrArg Snapshot.updatedAt (snapshot_limitHistory config edited)
      obtain ⟨-, -, -, rfl⟩ := Session.edit_ok hedit
      rw [hcommand, hlimit]
      exact .inl rfl
  | point _ hmove =>
      obtain ⟨-, -, rfl⟩ := Session.moveCursor_ok hmove
      exact .inr ⟨rfl, rfl⟩
  | help hcommand hrequest =>
      obtain ⟨-, -, rfl⟩ := Session.requestHelp_ok hrequest
      rw [hcommand]
      exact .inl rfl
  | giveUp hcommand _ =>
      rw [hcommand, Session.close]
      split
      · exact .inr ⟨rfl, rfl⟩
      · exact .inl rfl

/-- Marks do not go back. -/
theorem Turn.updatedAt_le {config : Config} {m : Moment} {s s' : Session} {facts : List Fact}
    {notices : List Notice} (h : Turn config m s facts notices s') :
    s.updatedAt ≤ s'.updatedAt := by
  rcases h.updatedAt_eq with hpushed | ⟨hsame, -⟩
  · rw [hpushed]
    exact Instant.le_later_left _ _
  · exact le_of_eq hsame.symm

/-- A session that ends is marked with the time of its end, or a later one. -/
theorem Turn.asOf_le_updatedAt {config : Config} {m : Moment} {s s' : Session} {facts : List Fact}
    {notices : List Notice} (h : Turn config m s facts notices s') (hopen : s.status ≠ .ended)
    (hended : s'.status = .ended) : m.command.asOf (m.time s.id) ≤ s'.updatedAt := by
  rcases h.updatedAt_eq with hpushed | ⟨-, hsame⟩
  · rw [hpushed]
    exact Instant.le_later_right _ _
  · exact absurd (hsame.symm.trans hended) hopen

namespace Engine

variable {config : Config} {e e' : Engine} {sessionId key : String} {s : Session}
  {asOf t : Instant} {now : Clock} {order : Table Session} {xs : List Event}

/-- A session ended at a time in the course of a run: it had not ended before a command of the run
that was carried out as of this time, and had ended after it. -/
def EndedAt (config : Config) (sessionId : String) (xs : List Event) (t : Instant) : Prop :=
  ∃ past now command rest s s', xs = past ++ .give now command :: rest ∧
    ((Engine.new config).through past).sessions.get? sessionId = some s ∧ s.status ≠ .ended ∧
    ((Engine.new config).through (past ++ [.give now command])).sessions.get? sessionId = some s' ∧
    s'.status = .ended ∧ t = command.asOf (now.acting sessionId)

/-- A session ends by some command. -/
theorem EndedAt.exists_command (h : EndedAt config sessionId xs t) :
    ∃ now command, Event.give now command ∈ xs ∧ t = command.asOf (now.acting sessionId) := by
  obtain ⟨past, now, command, rest, _, _, rfl, -, -, -, -, hend⟩ := h
  exact ⟨now, command, List.mem_append_right past List.mem_cons_self, hend⟩

/-- What has happened in the course of a run has happened when the run goes on. -/
theorem EndedAt.concat (h : EndedAt config sessionId xs t) (x : Event) :
    EndedAt config sessionId (xs ++ [x]) t := by
  obtain ⟨past, now, command, rest, s, s', rfl, hend⟩ := h
  exact ⟨past, now, command, rest ++ [x], s, s', by simp, hend⟩

/-- Whatever happens, a session that is on record stays on record, and while it is there its mark
does not go back. -/
theorem Reachable.le_updatedAt_through (he : e.Reachable config)
    (hseen : (e.dossier sessionId).recording.facts ≠ [])
    (hmark : ∀ s, e.sessions.get? sessionId = some s → t ≤ s.updatedAt) (xs : List Event) :
    ∀ s, (e.through xs).sessions.get? sessionId = some s → t ≤ s.updatedAt := by
  induction xs generalizing e with
  | nil => exact hmark
  | cons x rest ih =>
      refine ih (he.meet x) (he.facts_ne_nil_meet hseen x) ?_
      intro s hs
      rcases e.meet_cases x with ⟨now, command, rfl⟩ | hsame
      · have hmoved := he.coherent.step_dossier now command sessionId
        rcases hmoved.before hs with hsame | ⟨before, _, _, hbefore, hturn⟩ | ⟨hblank, -⟩
        · exact hmark s hsame
        · exact le_trans (hmark before hbefore) hturn.updatedAt_le
        · rw [hblank] at hseen
          exact absurd rfl hseen
      · exact hmark s ((hsame.session sessionId).symm.trans hs)

/-- **The mark of a session is no earlier than its end.** -/
theorem le_updatedAt_of_endedAt (h : EndedAt config sessionId xs t)
    (hs : ((Engine.new config).through xs).sessions.get? sessionId = some s) : t ≤ s.updatedAt := by
  obtain ⟨past, now, command, rest, before, after, rfl, hbefore, hopen, hafter, hended, rfl⟩ := h
  have he : ((Engine.new config).through past).Reachable config := Reachable.new.through past
  have he' := he.meet (.give now command)
  rw [through_concat] at hafter
  rw [List.append_cons, through_append, through_concat] at hs
  refine he'.le_updatedAt_through (he'.facts_ne_nil hafter) (fun s hs => ?_) rest s hs
  obtain rfl := Option.some.inj (hafter.symm.trans hs)
  have hmoved := he.coherent.step_dossier now command sessionId
  rcases hmoved.before hafter with hsame | ⟨last, _, _, hlast, hturn⟩ | ⟨hblank, -⟩
  · obtain rfl := Option.some.inj (hbefore.symm.trans hsame)
    exact absurd hended hopen
  · obtain rfl := Option.some.inj (hbefore.symm.trans hlast)
    obtain rfl := he.coherent.balanced.id_eq hbefore
    exact hturn.asOf_le_updatedAt hopen hended
  · cases hbefore.symm.trans (congrArg Dossier.session hblank)

/-- The mark of a session is the time of some command. -/
theorem exists_mark (hs : ((Engine.new config).through xs).sessions.get? sessionId = some s) :
    ∃ now command, Event.give now command ∈ xs ∧
      s.updatedAt = command.asOf (now.acting sessionId) := by
  refine session_through (P := fun xs s => ∃ now command, Event.give now command ∈ xs ∧
    s.updatedAt = command.asOf (now.acting sessionId)) ?_ ?_ ?_ xs s hs
  · intro xs now command d s hbegun hs
    cases hbegun with
    | created hcommand _ hstart _ =>
        obtain rfl := Option.some.inj hs
        subst hstart
        refine ⟨now, command, List.mem_append_right _ (List.mem_singleton_self _), ?_⟩
        obtain rfl : command = _ := hcommand
        rfl
  · rintro xs now command s facts notices s' hturn hbefore - ⟨earlier, other, hmem, hmark⟩
    have he : ((Engine.new config).through xs).Reachable config := Reachable.new.through xs
    obtain rfl := he.coherent.balanced.id_eq hbefore
    rcases hturn.updatedAt_eq with hpushed | ⟨hsame, -⟩
    · rcases max_choice s.updatedAt (command.asOf (now.acting s.id)) with hold | hnew
      · refine ⟨earlier, other, List.mem_append_left _ hmem, ?_⟩
        rw [hpushed, Instant.later_eq_max]
        exact hold.trans hmark
      · refine ⟨now, command, List.mem_append_right _ (List.mem_singleton_self _), ?_⟩
        rw [hpushed, Instant.later_eq_max]
        exact hnew
    · exact ⟨earlier, other, List.mem_append_left _ hmem, hsame.trans hmark⟩
  · rintro xs x s ⟨earlier, other, hmem, hmark⟩
    exact ⟨earlier, other, List.mem_append_left _ hmem, hmark⟩

/-- A session that has ended did so at some time. -/
theorem exists_endedAt (hs : ((Engine.new config).through xs).sessions.get? sessionId = some s)
    (hended : s.status = .ended) : ∃ t, EndedAt config sessionId xs t := by
  refine session_through (P := fun xs s => s.status = .ended → ∃ t, EndedAt config sessionId xs t)
    ?_ ?_ ?_ xs s hs hended
  · intro xs now command d s hbegun hs hended
    cases hbegun with
    | created _ _ hstart _ =>
        obtain rfl := Option.some.inj hs
        subst hstart
        cases hended
  · intro xs now command s facts notices s' _ hbefore hafter ih hended
    by_cases hopen : s.status = .ended
    · obtain ⟨t, hend⟩ := ih hopen
      exact ⟨t, hend.concat _⟩
    · exact ⟨_, xs, now, command, [], s, s', rfl, hbefore, hopen, hafter, hended, rfl⟩
  · intro xs x s ih hended
    obtain ⟨t, hend⟩ := ih hended
    exact ⟨t, hend.concat x⟩

/-- Apart from leap seconds, what is removed ended as long ago as ended sessions are kept. -/
theorem Sweeps.le_since_of_endedAt (h : ((Engine.new config).through xs).Sweeps asOf now report e')
    (hkey : key ∈ report.removed) (hend : EndedAt config key xs t) :
    (∃ s, ((Engine.new config).through xs).sessions.get? key = some s ∧ t ≤ s.updatedAt) ∧
      (¬asOf.InLeapSecond →
        (∀ now command, Event.give now command ∈ xs →
          ¬(command.asOf (now.acting key)).InLeapSecond) →
          nanosOf config.endedRetention ≤ asOf.since t) := by
  obtain ⟨s, hs, -, hold⟩ := (h.mem_removed key).mp hkey
  have hmark : t ≤ s.updatedAt := le_updatedAt_of_endedAt hend hs
  refine ⟨⟨s, hs, hmark⟩, fun hasOf hregular => ?_⟩
  obtain ⟨last, command, hlast, hupdated⟩ := exists_mark hs
  obtain ⟨finish, ending, hfinish, rfl⟩ := hend.exists_command
  rw [(Reachable.new.through xs).config_eq] at hold
  refine le_trans hold (Instant.since_antitone hasOf (hregular finish ending hfinish) ?_ hmark)
  rw [hupdated]
  exact hregular last command hlast

/-- **What a sweep comes to, in every state, in every order, as of any time.** What it gives up is
marked with its time. A second sweep as of the same time has nothing to report. And what it removes
ended long enough ago. Where an instant may fall into a leap second, elapsed time does not always
tell which of two instants is the later one. -/
theorem sweep_outcome (he : e.Reachable config) (order : Table Session)
    (horder : order.entries.Perm e.sessions.entries) (asOf : Instant) (now : Clock) :
    let result := (e.visiting order).sweep asOf now
    e.Sweeps asOf now result.1 result.2 ∧
      (asOf.Fits → (¬asOf.InLeapSecond ∨ 0 < config.idleTimeout) →
        ∀ key ∈ result.1.idleEnded, ∃ s, result.2.sessions.get? key = some s ∧
          s.updatedAt = asOf) ∧
      (asOf.Fits → 0 < config.endedRetention → ∀ (again : Table Session) (later : Clock),
        again.entries.Perm result.2.sessions.entries →
          ((result.2.visiting again).sweep asOf later).1.isEmpty = true) ∧
      ∀ xs, e = (Engine.new config).through xs → ∀ key ∈ result.1.removed,
        (∃ t, EndedAt config key xs t) ∧ ∀ t, EndedAt config key xs t →
          (∃ s, e.sessions.get? key = some s ∧ t ≤ s.updatedAt) ∧
            (¬asOf.InLeapSecond →
              (∀ now command, Event.give now command ∈ xs →
                ¬(command.asOf (now.acting key)).InLeapSecond) →
                nanosOf config.endedRetention ≤ asOf.since t) := by
  intro result
  have hsame := Table.get?_eq_of_perm horder
  have hkept := he.wellKept.visiting hsame
  have hsweeps : e.Sweeps asOf now result.1 result.2 := .of_visiting hsame (hkept.sweeps asOf now)
  refine ⟨hsweeps, fun hasOf hclock key hkey => ?_,
    fun hasOf hretention again later hagain => ?_,
    fun xs hxs key hkey => ⟨?_, fun t hend => ?_⟩⟩
  · obtain ⟨s, hs, hended, -⟩ := hsweeps.idleEnded key hkey
    obtain ⟨t, ht, -, hidle⟩ := (hsweeps.mem_idleEnded key).mp hkey
    obtain rfl := Option.some.inj (hs.symm.trans ht)
    rw [he.config_eq] at hidle
    exact ⟨_, hended, later_eq_of_idle hasOf hclock hidle⟩
  · have hafter : result.2.WellKept := hkept.step now (.sweep asOf)
    have hsameAfter := Table.get?_eq_of_perm hagain
    have hconfig : result.2.config = e.config := (sameCount_sweep asOf).config
    rw [← he.config_eq] at hretention
    exact hsweeps.isEmpty_again hasOf hretention hconfig
      (.of_visiting hsameAfter ((hafter.visiting hsameAfter).sweeps asOf later))
  · subst hxs
    obtain ⟨s, hs, hended, -⟩ := (hsweeps.mem_removed key).mp hkey
    exact exists_endedAt hs hended
  · subst hxs
    exact hsweeps.le_since_of_endedAt hkey hend

/-- A history in the course of which Ada's session ends, and which leaves Bob in it. Cy waits in a
session of their own. -/
def endedAndWaiting : List Event :=
  [.give (.still ⟨0, 0⟩) (.create "ada" "Ada" "primes" {}),
    .give (.still ⟨1, 0⟩) (.join "$s0" "bob" "Bob" .participant),
    .give (.still ⟨2, 0⟩) (.leave "ada"), .give (.still ⟨3, 0⟩) (.create "cy" "Cy" "primes" {})]

/-- Two and a half hours later, a sweep that comes by the sessions in reverse order removes Ada's
session, in which Bob still is, and gives up that of Cy. -/
theorem sweep_outcome_endedAndWaiting :
    let e := (Engine.new .default).through endedAndWaiting
    let order := e.sessions.reversed
    let result := (e.visiting order).sweep ⟨9000, 0⟩ (.still ⟨9001, 0⟩)
    e.Reachable .default ∧ order.entries.Perm e.sessions.entries ∧
      e.Located "bob" "$s0" ∧ "$s0" ∈ result.1.removed ∧ "$s1" ∈ result.1.idleEnded ∧
      e.Sweeps ⟨9000, 0⟩ (.still ⟨9001, 0⟩) result.1 result.2 ∧
      (∃ s, result.2.sessions.get? "$s1" = some s ∧ s.updatedAt = ⟨9000, 0⟩) ∧
      ((result.2.visiting result.2.sessions).sweep ⟨9000, 0⟩
        (.still ⟨9002, 0⟩)).1.isEmpty = true ∧
      EndedAt .default "$s0" endedAndWaiting ⟨2, 0⟩ ∧
      nanosOf Config.default.endedRetention ≤ Instant.since ⟨9000, 0⟩ ⟨2, 0⟩ := by
  intro e order result
  have he : e.Reachable .default := Reachable.new.through endedAndWaiting
  have horder : order.entries.Perm e.sessions.entries := e.sessions.entries.reverse_perm
  have hbob : e.whereabouts.get? "bob" = some "$s0" := by decide +kernel
  have hremoved : "$s0" ∈ result.1.removed := by decide +kernel
  have hidle : "$s1" ∈ result.1.idleEnded := by decide +kernel
  have hended : EndedAt .default "$s0" endedAndWaiting ⟨2, 0⟩ := by
    have hbefore : ∃ s ∈ ((Engine.new .default).through (endedAndWaiting.take 2)).sessions.get?
        "$s0", s.status ≠ .ended := by decide +kernel
    have hafter : ∃ s ∈ ((Engine.new .default).through (endedAndWaiting.take 3)).sessions.get?
        "$s0", s.status = .ended := by decide +kernel
    obtain ⟨s, hs, hopen⟩ := hbefore
    obtain ⟨s', hs', hend⟩ := hafter
    exact ⟨endedAndWaiting.take 2, .still ⟨2, 0⟩, .leave "ada", endedAndWaiting.drop 3, s, s', rfl,
      hs, hopen, hs', hend, rfl⟩
  have hregular : ∀ now command, Event.give now command ∈ endedAndWaiting →
      ¬(command.asOf (now.acting "$s0")).InLeapSecond := by
    intro now command hgiven
    simp only [endedAndWaiting, List.mem_cons, List.not_mem_nil, or_false, Event.give.injEq]
      at hgiven
    rcases hgiven with ⟨rfl, rfl⟩ | ⟨rfl, rfl⟩ | ⟨rfl, rfl⟩ | ⟨rfl, rfl⟩ <;> decide
  obtain ⟨hsweeps, hmarked, hagain, hretained⟩ :=
    sweep_outcome he order horder ⟨9000, 0⟩ (.still ⟨9001, 0⟩)
  refine ⟨he, horder, hbob, hremoved, hidle, hsweeps,
    hmarked (by decide) (.inl (by decide)) "$s1" hidle,
    hagain (by decide) (by decide) _ _ (.refl _), hended, ?_⟩
  exact ((hretained endedAndWaiting rfl "$s0" hremoved).2 _ hended).2 (by decide) hregular

/-- Ada waits alone, from a fifth of a second after the leap second at the end of 2016. -/
def afterLeapSecond : List Event :=
  [.give (.still ⟨1483228800, 200000000⟩) (.create "ada" "Ada" "primes" {})]

/-- Ada waits alone for more than an hour. Then her session is given up, as of the half hour
before. -/
def givenUpInArrears : List Event :=
  [.give (.still ⟨0, 0⟩) (.create "ada" "Ada" "primes" {}),
    .give (.still ⟨4000, 0⟩) (.sweep ⟨2000, 0⟩)]

/-- What a sweep gives up is not always marked with its time, and not always kept from its end on.

Where nobody may wait at all, a sweep as of the leap second counts three tenths of a second from a
creation after it: the session is given up, and its mark stays where it was. A sweep as of an
earlier time marks what it gives up with that time, though the end is recorded when it comes about;
a sweep right away removes the session, where ended sessions are kept for ten minutes. -/
theorem sweep_not_always_marks :
    let waiting := (Engine.new { idleTimeoutSecs := 0 }).through afterLeapSecond
    let swept := waiting.sweep ⟨1483228799, 1500000000⟩ (.still ⟨1483228801, 0⟩)
    let ended := (Engine.new .default).through givenUpInArrears
    ("$s0" ∈ swept.1.idleEnded ∧
      ∃ s ∈ swept.2.sessions.get? "$s0", s.updatedAt = ⟨1483228800, 200000000⟩) ∧
    nanosOf Config.default.endedRetention = 600000000000 ∧
    (∃ r ∈ ended.recording? "$s0", r.entries.getLast? = some ⟨1, ⟨4000, 0⟩, .ended .idle⟩) ∧
    "$s0" ∈ (ended.sweep ⟨4000, 0⟩ (.still ⟨4000, 0⟩)).1.removed := by
  intro waiting swept ended
  have hgivenUp : "$s0" ∈ swept.1.idleEnded := by decide +kernel
  have hmark : ∃ s ∈ swept.2.sessions.get? "$s0", s.updatedAt = ⟨1483228800, 200000000⟩ := by
    decide +kernel
  have hrecorded : ∃ r ∈ ended.recording? "$s0",
      r.entries.getLast? = some ⟨1, ⟨4000, 0⟩, .ended .idle⟩ := by decide +kernel
  have hremoved : "$s0" ∈ (ended.sweep ⟨4000, 0⟩ (.still ⟨4000, 0⟩)).1.removed := by decide +kernel
  exact ⟨⟨hgivenUp, hmark⟩, by decide, hrecorded, hremoved⟩

end Engine

end CoEdit

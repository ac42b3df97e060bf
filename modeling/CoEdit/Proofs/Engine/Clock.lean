import CoEdit.Proofs.Engine.Life

/-!
# Recordings Follow the Clock

Whatever is done is recorded at a reading of the clock or later, and no later than the latest
reading so far. So a history that goes on after a time leaves the part of a recording up to this
time alone.

A clock does not go back: no command reads an earlier time than the commands before it, and what is
recorded of a session is not recorded before the session is changed. Nothing keeps time from passing
between the two.

## Main definitions

* `Clock.From`, `Clock.Until`: bounds on all readings of a clock.
* `History.GoesForward`: the clock does not go back.

## Main results

* `Moved.exists_entries`: a moment appends entries that are no earlier than it.
* `Coherent.notAfter`: no entry is later than all the moments.
* `Coherent.exists_entries`: what happens after a time is recorded after this time.
* `changedBy_after`: a change is recorded at the time of the edit.
-/

namespace CoEdit

open CoEdit.Time (Instant)

/-! ### The readings of a clock -/

namespace Clock

variable {c d : Clock} {t u : Instant}

/-- The readings of a clock in the course of a command. -/
inductive Shows (c : Clock) : Instant → Prop
  | acting (key : String) : c.Shows (c.acting key)
  | recording (key : String) (k : Nat) : c.Shows (c.recording key k)
  | announcing (key : String) (k : Nat) : c.Shows (c.announcing key k)

/-- No reading is before a time. -/
def From (c : Clock) (t : Instant) : Prop :=
  ∀ u, c.Shows u → t ≤ u

/-- No reading is after a time. -/
def Until (c : Clock) (t : Instant) : Prop :=
  ∀ u, c.Shows u → u ≤ t

/-- No reading of one clock is after a reading of the other. -/
def Precedes (c d : Clock) : Prop :=
  ∀ t, c.Shows t → d.From t

/-- What is recorded of a session is not recorded before the session is changed. -/
def Onward (c : Clock) : Prop :=
  ∀ key k, c.acting key ≤ c.recording key k

theorem Precedes.until (h : c.Precedes d) (hd : d.Shows t) : c.Until t :=
  fun u hu => h u hu t hd

theorem eq_of_shows_still (h : (still t).Shows u) : u = t := by
  cases h <;> rfl

theorem precedes_still (h : t ≤ u) : (still t).Precedes (still u) := by
  intro x hx y hy
  rw [eq_of_shows_still hx, eq_of_shows_still hy]
  exact h

theorem onward_still : (still t).Onward :=
  fun _ _ => le_rfl

end Clock

/-- The clock of a history does not go back. -/
structure History.GoesForward (history : History) : Prop where
  /-- From one command to those after it. -/
  across : (history.map Prod.fst).Pairwise Clock.Precedes
  /-- In the course of a command. -/
  within : ∀ x ∈ history, x.1.Onward

namespace History

variable {history past rest : History}

theorem GoesForward.append (h : GoesForward (past ++ rest)) :
    GoesForward past ∧ GoesForward rest ∧ ∀ x ∈ past, ∀ y ∈ rest, x.1.Precedes y.1 := by
  obtain ⟨hacross, hwithin⟩ := h
  rw [List.map_append, List.pairwise_append] at hacross
  exact ⟨⟨hacross.1, fun x hx => hwithin x (List.mem_append_left _ hx)⟩,
    ⟨hacross.2.1, fun x hx => hwithin x (List.mem_append_right _ hx)⟩, fun x hx y hy =>
      hacross.2.2 x.1 (List.mem_map_of_mem hx) y.1 (List.mem_map_of_mem hy)⟩

/-- Where commands take no time, only the order of the commands counts. -/
theorem goesForward_still {commands : List (Instant × Command)}
    (h : (commands.map Prod.fst).Pairwise (· ≤ ·)) : (still commands).GoesForward where
  across := by
    rw [still, List.map_map, List.pairwise_map]
    exact (List.pairwise_map.mp h).imp Clock.precedes_still
  within x hx := by
    obtain ⟨command, -, rfl⟩ := List.mem_map.mp hx
    exact Clock.onward_still

end History

/-! ### The readings at a moment -/

namespace Moment

variable {m : Moment} {sessionId : String} {k : Nat}

theorem shows_time : m.clock.Shows (m.time sessionId) :=
  .acting sessionId

theorem times_cases : (m.times sessionId = fun _ => m.time sessionId) ∨
    m.times sessionId = m.clock.recording sessionId := by
  rw [times]
  split
  · exact .inl rfl
  · exact .inr rfl

theorem shows_times : m.clock.Shows (m.times sessionId k) := by
  rcases m.times_cases with h | h
  · rw [h]
    exact shows_time
  · rw [h]
    exact .recording sessionId k

/-- Nothing is recorded before the deed. -/
theorem time_le_times (h : m.clock.Onward) : m.time sessionId ≤ m.times sessionId k := by
  rcases m.times_cases with heq | heq
  · rw [heq]
  · rw [heq]
    exact h sessionId k

/-- A change is recorded at the time of the edit. -/
theorem times_of_edit {change : Change} (h : m.edit? sessionId = some change) :
    m.times sessionId k = m.time sessionId := by
  rw [edit?] at h
  split at h
  · next hcommand _ => simp only [times, hcommand]
  · cases h

end Moment

namespace Dossier

variable {config : Config} {sessionId : String} {c m : Moment} {moments : List Moment}
  {d d' : Dossier} {bound : Instant}

/-- A moment only appends to a recording, and what it appends is no earlier than it. -/
theorem Moved.exists_entries (h : Moved config m sessionId d d') :
    ∃ new, d'.recording.entries = d.recording.entries ++ new ∧
      ∀ t, t ≤ m.time sessionId → (∀ k, t ≤ m.times sessionId k) → ∀ e ∈ new, t ≤ e.timestamp := by
  rcases h with hstep | ⟨rfl, hbegun⟩
  · cases hstep with
    | quiet => exact ⟨[], by simp⟩
    | turn _ hturn =>
        obtain ⟨s, facts, notices, s', -, -, -, rfl⟩ := hturn
        obtain ⟨new, hentries, -, htimes⟩ :=
          d.recording.exists_entries_extend facts (m.times sessionId)
        exact ⟨new, hentries, fun t _ ht => htimes t ht⟩
    | remove => exact ⟨[], by simp⟩
  · cases hbegun with
    | created =>
        obtain ⟨new, hentries, -, htimes⟩ :=
          Recording.exists_entries_extend _ _ fun _ => m.time sessionId
        exact ⟨new, hentries, fun t ht _ => htimes t fun _ => ht⟩

/-- The times of the entries do not go back. -/
theorem Moved.ascending (h : Moved config m sessionId d d') (hd : d.recording.Ascending) :
    d'.recording.Ascending := by
  rcases h with hstep | ⟨rfl, hbegun⟩
  · cases hstep with
    | quiet => exact hd
    | turn _ hturn =>
        obtain ⟨s, facts, notices, s', -, -, -, rfl⟩ := hturn
        exact hd.extend
    | remove => exact hd
  · cases hbegun with
    | created => exact hd.extend

/-- A bound on a recording that is no earlier than a moment still holds after the moment. -/
theorem Moved.notAfter (h : Moved config m sessionId d d') (hbound : d.recording.NotAfter bound)
    (htime : m.clock.Until bound) : d'.recording.NotAfter bound := by
  rcases h with hstep | ⟨rfl, hbegun⟩
  · cases hstep with
    | quiet => exact hbound
    | turn _ hturn =>
        obtain ⟨s, facts, notices, s', -, -, -, rfl⟩ := hturn
        exact hbound.extend fun k => htime _ Moment.shows_times
    | remove => exact hbound
  · cases hbegun with
    | created => exact hbound.extend fun _ => htime _ Moment.shows_time

/-- A moment at which nothing on record is later records a change no later than it. -/
theorem Moved.changedBy (h : Moved config m sessionId d d')
    (hlast : d.recording.NotAfter (m.time sessionId)) (htime : m.time sessionId ≤ bound)
    (hd : d.recording.ChangedBy bound) : d'.recording.ChangedBy bound := by
  have hbound : d.recording.NotAfter bound := fun e he => (hlast e he).trans htime
  rcases h with hstep | ⟨rfl, hbegun⟩
  · cases hstep with
    | quiet => exact hd
    | turn _ hturn =>
        obtain ⟨s, facts, notices, s', -, rfl, hturn, rfl⟩ := hturn
        have hchanges := hturn.changes_eq
        cases hedit : m.edit? s.id with
        | none =>
            rw [hedit] at hchanges
            exact hd.extend hchanges
        | some change =>
            refine (hbound.extend fun k => ?_).changedBy
            rw [Moment.times_of_edit hedit]
            exact htime
    | remove => exact hd
  · cases hbegun with
    | created => exact (hbound.extend fun _ => htime).changedBy

/-- No entry is later than all the moments since the creation. -/
theorem Since.notAfter (h : Since config sessionId c moments d)
    (hbound : ∀ m ∈ c :: moments, m.clock.Until bound) : d.recording.NotAfter bound := by
  induction h with
  | begun h =>
      refine Moved.notAfter (.inr ⟨rfl, h⟩) (fun e he => ?_) (hbound c List.mem_cons_self)
      cases he
  | @snoc moments m d d' _ hstep ih =>
      refine Moved.notAfter (.inl hstep) (ih fun x hx => hbound x ?_) (hbound m (by simp))
      rw [← List.cons_append]
      exact List.mem_append_left _ hx

/-- If the clock does not go back behind the creation of a session, nothing is recorded of the
session before its creation. -/
theorem Since.le_timestamp (h : Since config sessionId c moments d)
    (hclock : ∀ m ∈ moments, m.clock.From (c.time sessionId)) :
    ∀ e ∈ d.recording.entries, c.time sessionId ≤ e.timestamp := by
  induction h with
  | begun h =>
      cases h with
      | created =>
          intro e he
          obtain ⟨new, hentries, -, htimes⟩ :=
            (Recording.empty sessionId).exists_entries_extend _ fun _ => c.time sessionId
          rw [advance, blank, hentries] at he
          exact htimes _ (fun _ => le_rfl) e he
  | @snoc moments m d d' _ hstep ih =>
      obtain ⟨new, hentries, htimes⟩ := Moved.exists_entries (.inl hstep)
      have hm := hclock m (by simp)
      rw [hentries]
      intro e he
      rcases List.mem_append.mp he with hold | hnew
      · exact ih (fun x hx => hclock x (List.mem_append_left _ hx)) e hold
      · exact htimes _ (hm _ Moment.shows_time) (fun _ => hm _ Moment.shows_times) e hnew

end Dossier

namespace Engine

variable {e : Engine} {config : Config} {history : History} {bound : Instant}

/-- No entry is later than all that was recorded before and all moments of a history. -/
theorem Coherent.notAfter (h : e.Coherent) (sessionId : String)
    (hbound : (e.dossier sessionId).recording.NotAfter bound)
    (htimes : ∀ x ∈ history, x.1.Until bound) :
    ((e.after history).dossier sessionId).recording.NotAfter bound := by
  induction history generalizing e with
  | nil => exact hbound
  | cons x rest ih =>
      have hmoved := h.step_dossier x.1 x.2 sessionId
      exact ih (h.step x.1 x.2) (hmoved.notAfter hbound (htimes x List.mem_cons_self))
        fun y hy => htimes y (List.mem_cons_of_mem _ hy)

/-- A history only appends to a recording; if it takes place after a time, all that it appends is
later than this time. -/
theorem Coherent.exists_entries (h : e.Coherent) (sessionId : String)
    (hwithin : ∀ x ∈ history, x.1.Onward)
    (htimes : ∀ x ∈ history, bound < x.1.acting sessionId) :
    ∃ new, ((e.after history).dossier sessionId).recording.entries =
      (e.dossier sessionId).recording.entries ++ new ∧ ∀ e ∈ new, bound < e.timestamp := by
  induction history generalizing e with
  | nil => exact ⟨[], by simp⟩
  | cons x rest ih =>
      have hmoved := h.step_dossier x.1 x.2 sessionId
      obtain ⟨first, hfirst, hfirsttimes⟩ := hmoved.exists_entries
      obtain ⟨later, hlater, hlatertimes⟩ := ih (h.step x.1 x.2)
        (fun y hy => hwithin y (List.mem_cons_of_mem _ hy))
        fun y hy => htimes y (List.mem_cons_of_mem _ hy)
      refine ⟨first ++ later, ?_, fun e he => ?_⟩
      · rw [after_cons, hlater, hfirst, List.append_assoc]
      · rcases List.mem_append.mp he with hold | hnew
        · exact lt_of_lt_of_le (htimes x List.mem_cons_self) (hfirsttimes _ le_rfl
            (fun _ => Moment.time_le_times (hwithin x List.mem_cons_self)) e hold)
        · exact hlatertimes e hnew

/-- The times of the entries do not go back, whatever the clock does. -/
theorem ascending_after (config : Config) (history : History) (sessionId : String) :
    (((Engine.new config).after history).dossier sessionId).recording.Ascending := by
  induction history using List.reverseRecOn with
  | nil => exact List.Pairwise.nil
  | append_singleton history x ih =>
      rw [after_append]
      exact (((coherent_new config).after history).step_dossier x.1 x.2 sessionId).ascending ih

/-- **A change is recorded at the time of the edit**: if no session was changed after a time, no
change is on record later than this time, though other facts may be. -/
theorem changedBy_after (hforward : history.GoesForward) {sessionId : String}
    (htimes : ∀ x ∈ history, x.1.acting sessionId ≤ bound) :
    (((Engine.new config).after history).dossier sessionId).recording.ChangedBy bound := by
  induction history using List.reverseRecOn with
  | nil => exact fun e he => by cases he
  | append_singleton history x ih =>
      obtain ⟨hpast, -, hbefore⟩ := hforward.append
      have hcoherent := (coherent_new config).after history
      have hlast : (((Engine.new config).after history).dossier sessionId).recording.NotAfter
          (x.1.acting sessionId) :=
        (coherent_new config).notAfter sessionId (fun e he => by cases he) fun y hy =>
          (hbefore y hy x (List.mem_singleton_self x)).until (.acting sessionId)
      rw [after_append]
      exact (hcoherent.step_dossier x.1 x.2 sessionId).changedBy hlast
        (htimes x (by simp)) (ih hpast fun y hy => htimes y (List.mem_append_left _ hy))

end Engine

end CoEdit

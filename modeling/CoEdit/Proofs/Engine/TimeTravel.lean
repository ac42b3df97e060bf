import CoEdit.Proofs.Engine.Clock
import CoEdit.Proofs.Engine.Documents
import Mathlib.Data.List.Infix

/-!
# Going Back in Time

As long as the clock does not go back, the recording of a session tells for every time what the
document was then: what everything done to the session by this time has led to. An operation may
take time, and what it records may be later than the deed; but a change is recorded at the time of
the edit.

## Main definitions

* `Engine.lastState`: the latest state that a session had in a history.

## Main results

* `exists_lastState`: the latest state has the document that the changes lead to.
* `contentAt?_after`: the document at a time, by the recording, is the one at this time.
-/

namespace CoEdit

open CoEdit.Time (Instant)

/-- In a history whose clock does not go back, everything after the part up to a time is later than
this time. -/
theorem lt_of_mem_dropWhile {history : History} {sessionId : String} {t : Instant}
    (hclock : history.GoesForward) :
    ∀ x ∈ history.dropWhile (·.1.acting sessionId ≤ t), t < x.1.acting sessionId := by
  induction history with
  | nil => simp
  | cons y rest ih =>
      have hsplit : History.GoesForward ([y] ++ rest) := hclock
      obtain ⟨-, hrest, hbefore⟩ := hsplit.append
      by_cases hy : y.1.acting sessionId ≤ t
      · rw [List.dropWhile_cons_of_pos (by simpa using hy)]
        exact ih hrest
      · rw [List.dropWhile_cons_of_neg (by simpa using hy)]
        intro x hx
        rcases List.mem_cons.mp hx with rfl | hlater
        · exact not_le.mp hy
        · exact lt_of_lt_of_le (not_le.mp hy) (hbefore y (List.mem_singleton_self y) x hlater
            _ (.acting sessionId) _ (.acting sessionId))

namespace Engine

variable {e : Engine} {config : Config} {history : History} {sessionId : String}

/-- The latest state that a session had in the course of a history. -/
def lastState (e : Engine) (sessionId : String) (history : History) : Option Session :=
  (history.inits.filterMap fun past => (e.after past).sessions.get? sessionId).getLast?

/-- The latest state is the present one, if there is one, and else what it was before. -/
theorem lastState_concat (x : Clock × Command) :
    e.lastState sessionId (history ++ [x]) =
      ((e.after (history ++ [x])).sessions.get? sessionId).or (e.lastState sessionId history) := by
  have hinits : (history ++ [x]).inits = history.inits ++ [history ++ [x]] := by
    rw [List.inits_append]
    rfl
  rw [lastState, lastState, hinits, List.filterMap_append, List.getLast?_append]
  cases hget : (e.after (history ++ [x])).sessions.get? sessionId with
  | none => simp [hget]
  | some s => simp [hget]

/-- A session that has been created has had a state, and the latest one has the document that the
changes lead to. -/
theorem exists_lastState {m : Moment} {snapshot : Snapshot}
    (hm : m ∈ (Engine.new config).trace history)
    (hcreation : m.creation? sessionId = some snapshot) :
    ∃ s, (Engine.new config).lastState sessionId history = some s ∧
      s.content = foldChanges (seedContent snapshot.title snapshot.assignmentId)
        (editsOf sessionId ((Engine.new config).trace history)) := by
  induction history using List.reverseRecOn with
  | nil => cases hm
  | append_singleton history x ih =>
      have hdocumented := (life_after config (history ++ [x]) sessionId).documented hm hcreation
      rw [lastState_concat]
      cases hget : ((Engine.new config).after (history ++ [x])).sessions.get? sessionId with
      | some s => exact ⟨s, rfl, hdocumented.content_eq s hget⟩
      | none =>
          -- The last moment is no change and no creation, as the session is not there after it.
          rw [after_append, after_cons, after_nil] at hget
          have hmoved := ((coherent_new config).after history).step_dossier x.1 x.2 sessionId
          rw [config_after] at hmoved
          rcases hmoved with hstep | ⟨-, hbegun⟩
          · rw [trace_append, trace_cons, trace_nil] at hm ⊢
            rcases List.mem_append.mp hm with hold | hnew
            · obtain ⟨s, hs, hcontent⟩ := ih hold
              refine ⟨s, hs, ?_⟩
              rw [editsOf_append, editsOf_cons, hstep.edit?_of_none hget]
              simpa using hcontent
            · rw [List.mem_singleton.mp hnew, hstep.creation?_eq_none] at hcreation
              cases hcreation
          · obtain ⟨s, hs, -⟩ := hbegun.creation?
            cases hget.symm.trans hs

/-- Before its creation a session has its seed for a document. -/
theorem contentAt?_of_lt {m : Moment} {snapshot : Snapshot} {t : Instant}
    (hclock : history.GoesForward) (hm : m ∈ (Engine.new config).trace history)
    (hcreation : m.creation? sessionId = some snapshot) (ht : t < m.time sessionId) :
    (((Engine.new config).after history).dossier sessionId).recording.contentAt? t =
      some (seedContent snapshot.title snapshot.assignmentId) := by
  have hlife := life_after config history sessionId
  obtain ⟨past, rest, htrace, -, hsince⟩ := hlife.of_creation hm hcreation
  have hlater : ∀ x ∈ rest, x.clock.From (m.time sessionId) := by
    have hacross := hclock.across
    rw [← map_clock_trace (e := Engine.new config), htrace, List.map_append, List.map_cons,
      List.pairwise_append, List.pairwise_cons] at hacross
    exact fun x hx => hacross.2.1.1 x.clock (List.mem_map_of_mem hx) _ Moment.shows_time
  have hnone : (Recording.empty sessionId).ChangedBy t := fun e he => by cases he
  rw [Recording.contentAt?_eq (ascending_after config history sessionId)
    (List.nil_append _).symm hnone fun e he =>
      lt_of_lt_of_le ht (hsince.le_timestamp hlater e he), (hlife.documented hm hcreation).seed?_eq]
  rfl

/-- If a history is cut at a time, the recording of the whole gives for this time the document of
the latest state that a session had in the first part. -/
theorem contentAt?_of_cut {past rest : History} {m : Moment} {snapshot : Snapshot} {t : Instant}
    (hclock : (past ++ rest).GoesForward) (hpast : ∀ x ∈ past, x.1.acting sessionId ≤ t)
    (hrest : ∀ x ∈ rest, t < x.1.acting sessionId)
    (hm : m ∈ (Engine.new config).trace (past ++ rest))
    (hcreation : m.creation? sessionId = some snapshot) (ht : m.time sessionId ≤ t) :
    ∃ s, (Engine.new config).lastState sessionId past = some s ∧
      (((Engine.new config).after (past ++ rest)).dossier sessionId).recording.contentAt? t =
        some s.content := by
  have hseed := ((life_after config (past ++ rest) sessionId).documented hm hcreation).seed?_eq
  have hm' : m ∈ (Engine.new config).trace past := by
    rw [trace_append] at hm
    rcases List.mem_append.mp hm with hold | hnew
    · exact hold
    · have hclock : m.clock ∈ rest.map Prod.fst := by
        rw [← map_clock_trace]
        exact List.mem_map_of_mem hnew
      obtain ⟨x, hx, hxm⟩ := List.mem_map.mp hclock
      have hlate : t < m.clock.acting sessionId := hxm ▸ hrest x hx
      exact absurd hlate (not_lt.mpr ht)
  obtain ⟨s, hs, hcontent⟩ := exists_lastState hm' hcreation
  obtain ⟨hpastForward, hrestForward, -⟩ := hclock.append
  obtain ⟨new, hentries, hnew⟩ := ((coherent_new config).after past).exists_entries sessionId
    hrestForward.within hrest
  have hbound : (((Engine.new config).after past).dossier sessionId).recording.ChangedBy t :=
    changedBy_after hpastForward hpast
  refine ⟨s, hs, ?_⟩
  rw [← after_append] at hentries
  rw [Recording.contentAt?_eq (ascending_after config (past ++ rest) sessionId) hentries hbound
    hnew, hseed, hcontent,
    ((life_after config past sessionId).documented hm' hcreation).changes_eq, Option.map_some]

/-- **Time travel is exact.** In a history whose clock does not go back, `m` is the moment at which
the session was created. For an earlier time the recording gives the seed; for this time or a later
one it gives the document of the latest state that the session had once everything done to it by
then, and nothing else, had been done. -/
theorem contentAt?_after (config : Config) (history : History) (sessionId : String) (m : Moment)
    (snapshot : Snapshot) (hclock : history.GoesForward)
    (hm : m ∈ (Engine.new config).trace history)
    (hcreation : m.creation? sessionId = some snapshot) :
    ∃ r, ((Engine.new config).after history).recording? sessionId = some r ∧
      ∀ t, (t < m.time sessionId →
          r.contentAt? t = some (seedContent snapshot.title snapshot.assignmentId)) ∧
        (m.time sessionId ≤ t → ∃ s, (Engine.new config).lastState sessionId
            (history.takeWhile (·.1.acting sessionId ≤ t)) = some s ∧
          r.contentAt? t = some s.content) := by
  obtain ⟨_, _, -, -, hsince⟩ := (life_after config history sessionId).of_creation hm hcreation
  refine ⟨_, recording?_eq_some hsince.facts_ne_nil, fun t => ⟨?_, fun ht => ?_⟩⟩
  · exact contentAt?_of_lt hclock hm hcreation
  · have hsplit : history.takeWhile (·.1.acting sessionId ≤ t) ++
        history.dropWhile (·.1.acting sessionId ≤ t) = history :=
      List.takeWhile_append_dropWhile
    have hpast : ∀ x ∈ history.takeWhile (·.1.acting sessionId ≤ t), x.1.acting sessionId ≤ t :=
      fun x hx => by simpa using List.mem_takeWhile_imp hx
    have hrest : ∀ x ∈ history.dropWhile (·.1.acting sessionId ≤ t), t < x.1.acting sessionId :=
      lt_of_mem_dropWhile hclock
    rw [← hsplit] at hclock hm
    have hcut := contentAt?_of_cut hclock hpast hrest hm hcreation ht
    rw [hsplit] at hcut
    exact hcut

/-- The case of a short history: the document after the edit, still known when the session is gone,
and the seed before it. -/
theorem contentAt?_shortHistory :
    ∃ r, ((Engine.new .default).after shortHistory).recording? "$s0" = some r ∧
      r.contentAt? ⟨1, 0⟩ = some "# Ada's session\n# Assignment: primes\n\n" ∧
      r.contentAt? ⟨4, 0⟩ = some "x# Ada's session\n# Assignment: primes\n\n" := by
  obtain ⟨r, hr, hcontent⟩ := contentAt?_after .default shortHistory "$s0" shortHistoryStart
    shortHistorySnapshot (History.goesForward_still (by decide)) mem_trace_shortHistory
    creation?_shortHistoryStart
  obtain ⟨s₁, hs₁, hcontent₁⟩ := (hcontent ⟨1, 0⟩).2 (by decide)
  obtain ⟨s₂, hs₂, hcontent₂⟩ := (hcontent ⟨4, 0⟩).2 (by decide)
  refine ⟨r, hr, ?_, ?_⟩
  · rw [hcontent₁]
    have hstate : ((Engine.new .default).lastState "$s0"
        (shortHistory.takeWhile (·.1.acting "$s0" ≤ ⟨1, 0⟩))).map Session.content =
          some "# Ada's session\n# Assignment: primes\n\n" := by
      decide +kernel
    rw [hs₁] at hstate
    exact hstate
  · rw [hcontent₂]
    have hstate : ((Engine.new .default).lastState "$s0"
        (shortHistory.takeWhile (·.1.acting "$s0" ≤ ⟨4, 0⟩))).map Session.content =
          some "x# Ada's session\n# Assignment: primes\n\n" := by
      decide +kernel
    rw [hs₂] at hstate
    exact hstate

end Engine

end CoEdit

import CoEdit.Engine.Views
import CoEdit.Proofs.Engine.Life

/-!
# Document, Changes and Recording Agree

The document of a session is kept in three ways: as the text itself, as the changes that led to it,
and as the recording. Whatever happens to the session, the changes it took are on record in order,
and applying them to the seed gives the text. When the session is removed, the recording still gives
the text it had.

## Main definitions

* `editsOf`: the changes that a session took in a run.
* `Dossier.Documented`: the three ways agree.

## Main results

* `Since.documented`: they agree from the creation of the session on.
* `editsOf_eq_nil_of_removed`: a session that has been removed takes no more changes.
* `documents_agree`: the agreement, after any history.
-/

namespace CoEdit

open CoEdit.Time (Instant)

/-- The changes that a session took at some moments, in order. -/
def editsOf (sessionId : String) (moments : List Moment) : List Change :=
  moments.filterMap (·.edit? sessionId)

theorem editsOf_append (sessionId : String) (past rest : List Moment) :
    editsOf sessionId (past ++ rest) = editsOf sessionId past ++ editsOf sessionId rest :=
  List.filterMap_append

@[simp] theorem editsOf_nil (sessionId : String) : editsOf sessionId [] = [] := rfl

theorem editsOf_cons (sessionId : String) (m : Moment) (rest : List Moment) :
    editsOf sessionId (m :: rest) = (m.edit? sessionId).toList ++ editsOf sessionId rest := by
  rw [editsOf, List.filterMap_cons]
  cases m.edit? sessionId <;> rfl

/-- Moments at which a session takes no change add none. -/
theorem editsOf_eq_nil {sessionId : String} {moments : List Moment}
    (h : ∀ m ∈ moments, m.edit? sessionId = none) : editsOf sessionId moments = [] :=
  List.filterMap_eq_nil_iff.mpr h

namespace Dossier

variable {config : Config} {sessionId seed : String} {c m : Moment} {moments : List Moment}
  {edits : List Change} {d d' : Dossier}

/-- The recording tells of a seed and of some changes, and so does the state of the session. -/
structure Documented (seed : String) (edits : List Change) (d : Dossier) : Prop where
  seed?_eq : d.recording.seed? = some seed
  changes_eq : d.recording.changes = edits
  content_eq : ∀ s, d.session = some s → s.content = foldChanges seed edits
  changeCount_eq : ∀ s, d.session = some s → s.changeCount = edits.length

/-- A documented session can be replayed. -/
theorem Documented.replay?_eq (h : Documented seed edits d) :
    d.recording.replay? = some (foldChanges seed edits) := by
  rw [Recording.replay?_eq, h.seed?_eq, h.changes_eq, Option.map_some]

/-- At its creation a session has its seed for a document. -/
theorem Begun.documented {snapshot : Snapshot} (h : Begun config c sessionId d)
    (hcreation : c.creation? sessionId = some snapshot) :
    Documented (seedContent snapshot.title snapshot.assignmentId) [] d := by
  obtain ⟨s, hs, hsnapshot⟩ := h.creation?
  obtain rfl := Option.some.inj (hsnapshot.symm.trans hcreation)
  cases h with
  | created _ _ hstart _ =>
      obtain rfl := Option.some.inj hs
      subst hstart
      refine ⟨rfl, rfl, fun t ht => ?_, fun t ht => ?_⟩
      · obtain rfl := Option.some.inj ht
        rfl
      · obtain rfl := Option.some.inj ht
        rfl

/-- A turn adds to the document and to the recording what it adds to the changes. -/
theorem Documented.turned (h : Documented seed edits d) (hturn : Turned config m sessionId d d') :
    Documented seed (edits ++ (m.edit? sessionId).toList) d' := by
  obtain ⟨s, facts, notices, s', hs, rfl, hturn, rfl⟩ := hturn
  refine ⟨Recording.seed?_extend h.seed?_eq, ?_, fun t ht => ?_, fun t ht => ?_⟩
  · rw [advance, Recording.changes_extend, h.changes_eq, hturn.changes_eq]
  · obtain rfl := Option.some.inj ht
    rw [hturn.follows.content, hturn.changes_eq, h.content_eq s hs, foldChanges_append]
  · obtain rfl := Option.some.inj ht
    rw [hturn.follows.changeCount, hturn.changes_eq, h.changeCount_eq s hs, List.length_append]

/-- Every step keeps the three ways in agreement. -/
theorem Documented.step (h : Documented seed edits d) (hstep : Step config m sessionId d d') :
    Documented seed (edits ++ (m.edit? sessionId).toList) d' := by
  cases hstep with
  | quiet hedit _ =>
      rw [hedit, Option.toList_none, List.append_nil]
      exact h
  | turn _ hturn => exact h.turned hturn
  | remove _ hcommand _ =>
      rw [Moment.edit?_of_sweep hcommand, Option.toList_none, List.append_nil]
      refine ⟨h.seed?_eq, h.changes_eq, fun s hs => ?_, fun s hs => ?_⟩
      · cases hs
      · cases hs

/-- The three ways agree from the creation of the session on. -/
theorem Since.documented {snapshot : Snapshot} (h : Since config sessionId c moments d)
    (hcreation : c.creation? sessionId = some snapshot) :
    Documented (seedContent snapshot.title snapshot.assignmentId) (editsOf sessionId moments)
      d := by
  induction h with
  | begun h => exact h.documented hcreation
  | snoc _ hstep ih =>
      rw [editsOf_append, editsOf_cons, editsOf_nil, List.append_nil]
      exact ih.step hstep

/-- So they agree after any history in which the session was created. -/
theorem Life.documented {snapshot : Snapshot} (h : Life config sessionId moments d)
    (hc : c ∈ moments) (hcreation : c.creation? sessionId = some snapshot) :
    Documented (seedContent snapshot.title snapshot.assignmentId) (editsOf sessionId moments)
      d := by
  obtain ⟨past, rest, rfl, hpast, hsince⟩ := h.of_creation hc hcreation
  rw [editsOf_append, editsOf_eq_nil fun m hm => (hpast m hm).1, List.nil_append, editsOf_cons,
    Moment.edit?_of_creation hcreation, Option.toList_none, List.nil_append]
  exact hsince.documented hcreation

/-- A session takes no change at a moment after which it is not there. -/
theorem Step.edit?_of_none (h : Step config m sessionId d d') (hnone : d'.session = none) :
    m.edit? sessionId = none := by
  cases h with
  | quiet hedit _ => exact hedit
  | turn _ hturn =>
      obtain ⟨_, _, _, _, -, -, -, rfl⟩ := hturn
      cases hnone
  | remove _ hcommand _ => exact Moment.edit?_of_sweep hcommand

/-- A session that is gone does not come back. -/
theorem Step.of_removed (h : Step config m sessionId d d') (hnone : d.session = none) :
    d' = d := by
  cases h with
  | quiet => rfl
  | turn _ hturn =>
      obtain ⟨s, -, -, -, hs, -⟩ := hturn
      rw [hnone] at hs
      cases hs
  | remove hs =>
      rw [hnone] at hs
      cases hs

end Dossier

namespace Engine

variable {e : Engine} {config : Config} {history : History} {sessionId : String}

/-- A session that has been removed takes no more changes, whatever history follows. -/
theorem editsOf_eq_nil_of_removed (h : e.Coherent) (hnone : (e.dossier sessionId).session = none)
    (hseen : (e.dossier sessionId).recording.facts ≠ []) (rest : History) :
    editsOf sessionId (e.trace rest) = [] := by
  induction rest generalizing e with
  | nil => rfl
  | cons x rest ih =>
      rcases h.step_dossier x.1 x.2 sessionId with hstep | ⟨hblank, -⟩
      · have hsame := hstep.of_removed hnone
        have hedit := hstep.edit?_of_none (hsame ▸ hnone)
        rw [trace_cons, editsOf_cons, hedit, Option.toList_none, List.nil_append]
        refine ih (h.step x.1 x.2) ?_ ?_
        · rw [hsame]
          exact hnone
        · rw [hsame]
          exact hseen
      · rw [hblank] at hseen
        exact absurd rfl hseen

/-- The changes that a session takes are those it takes until it is removed. -/
theorem editsOf_append_of_removed {past rest : History} {x : Clock × Command} {s : Session}
    (hlive : ((Engine.new config).after past).sessions.get? sessionId = some s)
    (hgone : ((Engine.new config).after (past ++ [x])).sessions.get? sessionId = none) :
    editsOf sessionId ((Engine.new config).trace (past ++ x :: rest)) =
      editsOf sessionId ((Engine.new config).trace past) := by
  have hcoherent := (coherent_new config).after past
  obtain ⟨_, _, _, -, hsince⟩ := (life_after config past sessionId).of_session hlive
  have hmoved := hcoherent.step_dossier x.1 x.2 sessionId
  rw [after_append, after_cons, after_nil] at hgone
  rcases hmoved with hstep | ⟨hblank, -⟩
  · rw [config_after] at hstep
    have hnone := hstep.edit?_of_none hgone
    have hrest := editsOf_eq_nil_of_removed (hcoherent.step x.1 x.2) hgone
      (hsince.snoc hstep).facts_ne_nil rest
    rw [trace_append, editsOf_append, trace_cons, editsOf_cons, hnone, hrest]
    exact List.append_nil _
  · rw [hblank] at hsince
    exact absurd rfl hsince.facts_ne_nil

/-- What is on record of a session that there has been is its dossier's recording. -/
theorem recording?_eq_some (hseen : (e.dossier sessionId).recording.facts ≠ []) :
    e.recording? sessionId = some (e.dossier sessionId).recording := by
  rw [recording?]
  cases hget : e.archive.get? sessionId with
  | none =>
      rw [dossier, hget] at hseen
      exact absurd rfl hseen
  | some r => rw [dossier, hget, Option.getD_some]

/-- **Document, changes and recording agree after every history.** `m` is the moment at which the
session was created. The changes it took since then, in order, are those on record; applied to the
seed they give the replay, and the document as long as the session is there. What the replay of a
removed session gives is the document that it had when it was removed. -/
theorem documents_agree (config : Config) (history : History) (sessionId : String) (m : Moment)
    (snapshot : Snapshot) (hm : m ∈ (Engine.new config).trace history)
    (hcreation : m.creation? sessionId = some snapshot) :
    let e := (Engine.new config).after history
    let edits := editsOf sessionId ((Engine.new config).trace history)
    let document := foldChanges (seedContent snapshot.title snapshot.assignmentId) edits
    ∃ r, e.recording? sessionId = some r ∧ r.changes = edits ∧ r.replay? = some document ∧
      (∀ s, e.sessions.get? sessionId = some s →
        s.content = document ∧ s.changeCount = edits.length) ∧
      ∀ past x rest s, history = past ++ x :: rest →
        ((Engine.new config).after past).sessions.get? sessionId = some s →
        ((Engine.new config).after (past ++ [x])).sessions.get? sessionId = none →
        r.replay? = some s.content := by
  intro e edits document
  have hlife := life_after config history sessionId
  have hdocumented := hlife.documented hm hcreation
  obtain ⟨_, _, -, -, hsince⟩ := hlife.of_creation hm hcreation
  refine ⟨(e.dossier sessionId).recording, recording?_eq_some hsince.facts_ne_nil,
    hdocumented.changes_eq, hdocumented.replay?_eq, fun s hs => ?_, ?_⟩
  · exact ⟨hdocumented.content_eq s hs, hdocumented.changeCount_eq s hs⟩
  · rintro past x rest s rfl hlive hgone
    have hpast := life_after config past sessionId
    obtain ⟨earlier, c, later, htrace, hborn⟩ := hpast.of_session hlive
    obtain ⟨other, hother⟩ := hborn.creation?_eq_some
    have hc : c ∈ (Engine.new config).trace past := by simp [htrace]
    have hbefore := hpast.documented hc hother
    -- Both creations are on record as the same seed.
    have hseed : seedContent snapshot.title snapshot.assignmentId =
        seedContent other.title other.assignmentId := by
      have hagain := hlife.documented (by simp [trace_append, hc]) hother
      exact Option.some.inj (hdocumented.seed?_eq.symm.trans hagain.seed?_eq)
    rw [hdocumented.replay?_eq, hseed, editsOf_append_of_removed hlive hgone,
      hbefore.content_eq s hlive]

/-- The case of a short history with one change, in which the session is removed at the end. -/
theorem documents_agree_shortHistory :
    ∃ r, ((Engine.new .default).after shortHistory).recording? "$s0" = some r ∧
      r.changes = [⟨"$c0", "bob", ⟨2, 0⟩, .insert 0 "x"⟩] ∧
      r.replay? = some "x# Ada's session\n# Assignment: primes\n\n" := by
  obtain ⟨r, hr, hchanges, hreplay, -⟩ := documents_agree .default shortHistory "$s0"
    shortHistoryStart shortHistorySnapshot mem_trace_shortHistory creation?_shortHistoryStart
  refine ⟨r, hr, hchanges.trans ?_, hreplay.trans ?_⟩
  · decide +kernel
  · decide +kernel

end Engine

end CoEdit

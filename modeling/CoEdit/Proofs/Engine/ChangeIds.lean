import CoEdit.Proofs.Engine.Reachable

/-!
# The Ids of Changes

Changes get their ids from one counter, whatever session they are made in. So an id that an engine
knows of, be it from a session, from a recording or from a message, has been given out before.

## Main definitions

* `changeName`: the ids in the order in which they are given out.
* `Dossier.changes`: the changes that the dossier of a session tells of.

## Main results

* `Dossier.Moved.mem_changes`: a command adds the change that it makes, and no other.
* `changesMade_step`: a change takes one id.
* `Reachable.exists_changeName`: all changes have ids that were given out.
-/

namespace CoEdit

open CoEdit.Time (Instant)
open Engine

/-- The change that a notice tells of, if it tells of one. -/
def Notice.change? : Notice → Option Change
  | .codeChange change _ => some change
  | _ => none

/-! ### The changes of a session -/

/-- What a turn leaves in the history was there before, or is the change that the session took. -/
theorem Turn.mem_history {config : Config} {m : Moment} {s s' : Session} {facts : List Fact}
    {notices : List Notice} {c : Change} (h : Turn config m s facts notices s')
    (hc : c ∈ s'.history) : c ∈ s.history ∨ m.edit? s.id = some c := by
  cases h with
  | arrive _ _ hjoin =>
      rw [(Session.sameDocument_join hjoin).history] at hc
      exact .inl hc
  | depart _ _ hdepart =>
      rw [(Session.sameDocument_depart hdepart).history] at hc
      exact .inl hc
  | @edit _ _ _ change s' hcommand hanswer hedit =>
      have hedited : c ∈ s'.history := by
        rw [limitHistory] at hc
        split at hc
        · exact hc
        · exact List.mem_of_mem_drop hc
      obtain ⟨-, -, -, hs'⟩ := Session.edit_ok hedit
      rw [hs'] at hedited
      rcases List.mem_append.mp hedited with hold | hnew
      · exact .inl hold
      · obtain rfl := List.mem_singleton.mp hnew
        exact .inr (by simp [Moment.edit?, hcommand, hanswer])
  | point _ hmove =>
      rw [(Session.sameDocument_moveCursor hmove).history] at hc
      exact .inl hc
  | help _ hrequest =>
      rw [(Session.sameDocument_requestHelp hrequest).history] at hc
      exact .inl hc
  | giveUp =>
      rw [Session.sameDocument_close.history] at hc
      exact .inl hc

/-- What a turn announces of changes is the change that the session took. -/
theorem Turn.changes_notices {config : Config} {m : Moment} {s s' : Session} {facts : List Fact}
    {notices : List Notice} (h : Turn config m s facts notices s') :
    notices.filterMap Notice.change? = facts.filterMap Fact.change? := by
  cases h with
  | arrive =>
      rw [changes_arrivalFacts]
      rfl
  | @depart _ departure =>
      rw [changes_departureFacts, departureNotices]
      cases departure.ended <;> rfl
  | edit | point | help | giveUp => rfl

namespace Dossier

variable {config : Config} {m : Moment} {sessionId : String} {d d' : Dossier} {c : Change}

/-- The changes that a dossier tells of: in the history of the session, in the recording, and in the
notices. -/
def changes (d : Dossier) : List Change :=
  d.session.elim [] Session.history ++ d.recording.changes ++ d.notices.filterMap Notice.change?

theorem mem_changes_iff : c ∈ d.changes ↔ (∃ s, d.session = some s ∧ c ∈ s.history) ∨
    c ∈ d.recording.changes ∨ ∃ notice ∈ d.notices, notice.change? = some c := by
  rw [changes, List.mem_append, List.mem_append, List.mem_filterMap, or_assoc]
  cases d.session <;> simp

/-- **A moment adds the change that the session took, and no other.** -/
theorem Moved.mem_changes (h : Moved config m sessionId d d') (hc : c ∈ d'.changes) :
    c ∈ d.changes ∨ m.edit? sessionId = some c := by
  rcases h with hstep | ⟨-, hbegun⟩
  · cases hstep with
    | quiet => exact .inl hc
    | turn _ hturn =>
        obtain ⟨s, facts, notices, s', hs, rfl, hturn, rfl⟩ := hturn
        have htold : c ∈ facts.filterMap Fact.change? → m.edit? s.id = some c := by
          rw [hturn.changes_eq, Option.mem_toList]
          exact id
        rcases mem_changes_iff.mp hc with ⟨_, hs', hhistory⟩ | hrecording | ⟨notice, hnotice, hc⟩
        · obtain rfl := Option.some.inj hs'
          rcases hturn.mem_history hhistory with hold | hedit
          · exact .inl (mem_changes_iff.mpr (.inl ⟨s, hs, hold⟩))
          · exact .inr hedit
        · rw [advance, Recording.changes_extend] at hrecording
          rcases List.mem_append.mp hrecording with hold | hnew
          · exact .inl (mem_changes_iff.mpr (.inr (.inl hold)))
          · exact .inr (htold hnew)
        · rcases List.mem_append.mp hnotice with hold | hnew
          · exact .inl (mem_changes_iff.mpr (.inr (.inr ⟨notice, hold, hc⟩)))
          · refine .inr (htold ?_)
            rw [← hturn.changes_notices]
            exact List.mem_filterMap.mpr ⟨notice, hnew, hc⟩
    | remove =>
        rcases mem_changes_iff.mp hc with ⟨_, hs', -⟩ | htold
        · cases hs'
        · exact .inl (mem_changes_iff.mpr (.inr htold))
  · cases hbegun with
    | created _ _ hstart =>
        subst hstart
        cases hc

end Dossier

/-! ### The counter -/

namespace Engine

variable {config : Config} {e e' : Engine} {now : Clock} {command : Command}

/-- The ids of changes, in the order in which they are given out. -/
def changeName (n : Nat) : String :=
  "$c" ++ toString n

theorem changeName_injective : Function.Injective changeName := fun _ _ h =>
  Nat.repr_injective ((String.append_right_inj "$c").mp h)

/-- Whether an operation has come to a change that was taken. -/
def tookChange (outcome : Except Error Answer) : Bool :=
  outcome.toOption.any isChange

/-- A change takes one id. Nothing else does. -/
theorem changesMade_step (e : Engine) (now : Clock) (command : Command) :
    (e.step now command).2.changesMade =
      e.changesMade + (tookChange (e.step now command).1).toNat := by
  rcases e.step_cases now command with ⟨error, hstep⟩ | ⟨answer, e', hok, hstep⟩
  · rw [hstep]
    rfl
  · rw [hstep]
    exact hok.counts.2.2

/-- The change that is made at a moment has the next id. -/
theorem id_of_edit? {key : String} {c : Change}
    (h : Moment.edit? ⟨now, command, (e.step now command).1⟩ key = some c) :
    c.id = changeName e.changesMade ∧
      (e.step now command).2.changesMade = e.changesMade + 1 := by
  rw [changesMade_step]
  rw [Moment.edit?] at h
  split at h
  · next hcommand hanswer =>
    split at h
    · obtain rfl := Option.some.inj h
      dsimp only at hcommand hanswer
      rcases e.step_cases now command with ⟨error, hstep⟩ | ⟨answer, e', hok, hstep⟩
      · rw [hstep] at hanswer
        cases hanswer
      · rw [hstep] at hanswer ⊢
        obtain rfl := Except.ok.inj hanswer
        subst hcommand
        cases hok with
        | change hok =>
            obtain ⟨s, s', -, -, hedit, -⟩ := change_ok hok
            obtain ⟨-, -, rfl, -⟩ := Session.edit_ok hedit
            exact ⟨rfl, rfl⟩
    · cases h
  · cases h

/-- **All changes that an engine knows of have ids that were given out.** -/
theorem Reachable.exists_changeName (h : e.Reachable config) {key : String} {c : Change}
    (hc : c ∈ (e.dossier key).changes) : ∃ n < e.changesMade, c.id = changeName n := by
  refine h.invariant (I := fun e => c ∈ (e.dossier key).changes →
    ∃ n < e.changesMade, c.id = changeName n) nofun ?_ ?_ hc
  · intro e h now command he hc
    rcases (h.coherent.step_dossier now command key).mem_changes hc with hold | hedit
    · obtain ⟨n, hn, hid⟩ := he hold
      refine ⟨n, ?_, hid⟩
      rw [changesMade_step]
      omega
    · obtain ⟨hid, hmade⟩ := id_of_edit? hedit
      exact ⟨e.changesMade, by omega, hid⟩
  · intro e e' hsame he
    rw [hsame.dossier, hsame.changesMade]
    exact he

end Engine

end CoEdit

import CoEdit.Proofs.Engine.Life
import Mathlib.Logic.Relation

/-!
# The Parts of an Operation

However much an operation does, it does it in small parts: it changes the tables of the directory,
records one fact, sends one notice, or changes one subscription or connection. What every such part
keeps is kept by every command, and so holds after every history.

## Main definitions

* `Engine.Part`: one part of an operation.
* `Engine.Parts`: one part after the other.

## Main results

* `Outcome.parts`: every command that succeeds is made of parts.
* `after_of_part`: what every part keeps holds after every history.
-/

namespace CoEdit.Engine

open CoEdit.Time (Instant)

variable {e e' : Engine} {sessionId userId : String} {now : Clock}

/-- One part of an operation. -/
inductive Part (e : Engine) : Engine → Prop
  | directory {e' : Engine} (harchive : e'.archive = e.archive)
      (hgateway : e'.gateway = e.gateway) : Part e e'
  | log (sessionId : String) (fact : Fact) (time : Instant) : Part e (e.log sessionId fact time)
  | announce (sessionId : String) (notice : Notice) (exclude : Option String) (time : Instant) :
      Part e (e.announce sessionId notice exclude time)
  | subscribe (sessionId userId : String) :
      Part e { e with gateway := e.gateway.subscribe sessionId userId }
  | unsubscribe (sessionId userId : String) :
      Part e { e with gateway := e.gateway.unsubscribe sessionId userId }
  | dropSession (sessionId : String) :
      Part e { e with gateway := e.gateway.dropSession sessionId }
  | connect (userId : String) (line : Line) :
      Part e { e with gateway := (e.gateway.connect userId line).2 }
  | disconnect (userId : String) :
      Part e { e with gateway := (e.gateway.disconnect userId).2 }

/-- One part after the other. -/
abbrev Parts : Engine → Engine → Prop :=
  Relation.ReflTransGen Part

/-- What every part keeps is kept by all of them together. -/
theorem Parts.invariant {I : Engine → Prop} (hpart : ∀ {e e'}, Part e e' → I e → I e')
    (h : Parts e e') (he : I e) : I e' := by
  induction h with
  | refl => exact he
  | tail _ hlast ih => exact hpart hlast ih

/-! ### Telling -/

/-- Telling is recording one fact after the other, and then sending one notice after the other. -/
theorem parts_tell (facts : List Fact) (notices : List (Notice × Option String))
    (stamps : Stamps) : Parts e (e.tell sessionId facts notices stamps) := by
  induction facts generalizing e stamps with
  | cons fact facts ih =>
      exact .head (.log sessionId fact (stamps.recorded 0))
        (ih ⟨fun k => stamps.recorded (k + 1), stamps.announced⟩)
  | nil =>
      induction notices generalizing e stamps with
      | nil => exact .refl
      | cons n notices ih =>
          exact .head (.announce sessionId n.1 n.2 (stamps.announced 0))
            (ih ⟨stamps.recorded, fun k => stamps.announced (k + 1)⟩)

theorem parts_putSession (s : Session) : Parts e (e.putSession s) :=
  .single (.directory rfl rfl)

theorem parts_enroll (s : Session) : Parts e (e.enroll sessionId s userId) :=
  (parts_putSession s).tail (.subscribe sessionId userId)

theorem parts_dismiss (s : Session) : Parts e (e.dismiss sessionId s userId) :=
  (parts_putSession s).tail (.unsubscribe sessionId userId)

/-! ### Coming and going -/

theorem parts_departFrom (e : Engine) (sessionId userId : String) :
    Parts e (e.departFrom sessionId userId now) := by
  cases hs : e.sessions.get? sessionId with
  | none => rw [departFrom, hs]
  | some s =>
      cases hd : s.depart userId (now.acting sessionId) with
      | error =>
          rw [departFrom, hs]
          simp only [hd]
          exact .refl
      | ok result =>
          rw [departFrom_eq hs hd]
          exact (parts_dismiss _).trans (parts_tell _ _ _)

theorem parts_vacate (e : Engine) (userId : String) : Parts e (e.vacate userId now) := by
  rw [vacate]
  split
  · exact .refl
  · next previous _ =>
    have hdisplace : Parts e (e.displace userId) := .single (.directory rfl rfl)
    exact hdisplace.trans (parts_departFrom _ previous userId)

theorem parts_install (s : Session) (hostName : String) : Parts e (e.install s hostName now) :=
  ((parts_enroll s).trans (parts_tell _ _ _)).tail (.directory rfl rfl)

theorem parts_welcome (admission : Admission) (s : Session) :
    Parts e (e.welcome sessionId userId admission s now) :=
  ((parts_enroll s).trans (parts_tell _ _ _)).tail (.directory rfl rfl)

theorem parts_leaveBehind (e : Engine) (previous : Option String) (sessionId userId : String) :
    Parts e (e.leaveBehind previous sessionId userId now) := by
  cases previous with
  | none => exact .refl
  | some key =>
      rw [leaveBehind]
      split
      · exact .refl
      · exact parts_departFrom e key userId

/-! ### Sweeping -/

theorem parts_endIdle (asOf : Instant) (e : Engine) (sessionId : String) :
    Parts e (endIdle asOf now e sessionId) := by
  cases hs : e.sessions.get? sessionId with
  | none => rw [endIdle_of_none hs]
  | some s =>
      rw [endIdle_eq hs]
      exact (parts_putSession _).trans (parts_tell _ _ _)

theorem parts_removeSession (e : Engine) (sessionId : String) :
    Parts e (e.removeSession sessionId) :=
  .head (.dropSession sessionId) (.single (.directory rfl rfl))

/-- What is made of parts for each of some sessions is so for one session after the other. -/
theorem parts_foldl {f : Engine → String → Engine} (hf : ∀ e key, Parts e (f e key))
    (keys : List String) (e : Engine) : Parts e (keys.foldl f e) := by
  induction keys generalizing e with
  | nil => exact .refl
  | cons key keys ih => exact (hf e key).trans (ih _)

theorem parts_sweep (asOf : Instant) : Parts e (e.sweep asOf now).2 := by
  have hswept : Parts e (e.swept asOf now) :=
    (parts_foldl (parts_endIdle asOf) _ e).trans (parts_foldl parts_removeSession _ _)
  exact hswept.tail (.directory rfl rfl)

/-! ### Commands -/

/-- Every command that succeeds is made of parts. -/
theorem Outcome.parts {command : Command} {answer : Answer}
    (h : Outcome e now command answer e') : Parts e e' := by
  cases h with
  | create hok =>
      obtain ⟨settings, -, -, rfl⟩ := create_ok hok
      exact (parts_vacate e _).trans (parts_install _ _)
  | join hok =>
      obtain ⟨s, s', admission, -, -, -, rfl⟩ := join_ok hok
      exact (parts_welcome admission s').trans (parts_leaveBehind _ _ _ _)
  | leave hok =>
      rw [leave_ok hok]
      exact parts_vacate e _
  | change hok =>
      obtain ⟨s, s', -, -, -, rfl⟩ := change_ok hok
      exact ((parts_putSession _).trans (parts_tell _ _ _)).tail (.directory rfl rfl)
  | cursor hok =>
      obtain ⟨key, s, s', entry, -, -, -, rfl⟩ := cursor_ok hok
      exact (parts_putSession _).trans (parts_tell _ _ _)
  | assist hok =>
      obtain ⟨s, s', entry, -, -, rfl⟩ := assist_ok hok
      exact (parts_putSession _).trans (parts_tell _ _ _)
  | connect userId line => exact .single (.connect userId line)
  | disconnect userId => exact .single (.disconnect userId)
  | sweep asOf => exact parts_sweep asOf

/-- **What every part keeps holds after every history**, if it holds before. -/
theorem after_of_part {I : Engine → Prop} (hpart : ∀ {e e'}, Part e e' → I e → I e')
    (history : History) (h : I e) : I (e.after history) := by
  induction history generalizing e with
  | nil => exact h
  | cons x rest ih =>
      rw [after_cons]
      rcases e.step_cases x.1 x.2 with ⟨error, hstep⟩ | ⟨answer, e', hok, hstep⟩
      · rw [hstep]
        exact ih h
      · rw [hstep]
        exact ih (hok.parts.invariant hpart h)

end CoEdit.Engine

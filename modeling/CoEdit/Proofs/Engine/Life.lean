import CoEdit.Proofs.Engine.Coherence
import CoEdit.Proofs.Session.Sound
import Mathlib.Data.List.Induction

/-!
# The Life of a Session

What a history of commands means for one session: nothing at all until the session is created, and
one step after the other from then on. Whatever is kept by the steps holds of every session in every
state that a history leads to.

## Main definitions

* `History`, `Engine.after`, `Engine.trace`: a history, the engine after it, and its moments.
* `Dossier.Since`: how a dossier develops from the creation of the session on.
* `Dossier.Life`: how it comes about in a history.

## Main results

* `run_eq`: a run gives the answers of the moments.
* `life_after`: every history is a life of every session.
* `Life.of_creation`, `Life.of_session`: what has been created, or is there, has developed since.
* `sound_after`: every session is sound after every history.
-/

namespace CoEdit

open CoEdit.Time (Instant)

/-- Commands with what the clock shows while they are carried out, the first one first. -/
abbrev History := List (Clock × Command)

/-- A history whose commands take no time. -/
def History.still (commands : List (Instant × Command)) : History :=
  commands.map fun x => (.still x.1, x.2)

namespace Engine

variable {e : Engine}

/-- The engine after a history. -/
def after (e : Engine) (history : History) : Engine :=
  (e.run history).2

/-- The moments of a history. -/
def trace (e : Engine) : History → List Moment
  | [] => []
  | (now, command) :: rest =>
    ⟨now, command, (e.step now command).1⟩ :: (e.step now command).2.trace rest

@[simp] theorem after_nil : e.after [] = e := rfl

theorem after_cons (now : Clock) (command : Command) (rest : History) :
    e.after ((now, command) :: rest) = (e.step now command).2.after rest := rfl

@[simp] theorem trace_nil : e.trace [] = [] := rfl

theorem trace_cons (now : Clock) (command : Command) (rest : History) :
    e.trace ((now, command) :: rest) =
      ⟨now, command, (e.step now command).1⟩ :: (e.step now command).2.trace rest := rfl

/-- A run gives the answers of the moments, and the engine after them. -/
theorem run_eq (history : History) :
    e.run history = ((e.trace history).map Moment.answer, e.after history) := by
  induction history generalizing e with
  | nil => rfl
  | cons x rest ih =>
      rw [run, trace_cons, List.map_cons, after_cons]
      simp only [ih]

/-- Going through two histories one after the other. -/
theorem after_append (past rest : History) :
    e.after (past ++ rest) = (e.after past).after rest := by
  induction past generalizing e with
  | nil => rfl
  | cons x past ih =>
      rw [List.cons_append, after_cons, after_cons, ih]

theorem trace_append (past rest : History) :
    e.trace (past ++ rest) = e.trace past ++ (e.after past).trace rest := by
  induction past generalizing e with
  | nil => rfl
  | cons x past ih =>
      rw [List.cons_append, trace_cons, trace_cons, after_cons, ih, List.cons_append]

/-- The moments go by the clocks of the history. -/
theorem map_clock_trace (history : History) :
    (e.trace history).map Moment.clock = history.map Prod.fst := by
  induction history generalizing e with
  | nil => rfl
  | cons x rest ih => rw [trace_cons, List.map_cons, ih, List.map_cons]

/-- Coherence is kept by every history. -/
theorem Coherent.after (h : e.Coherent) (history : History) : (e.after history).Coherent := by
  induction history generalizing e with
  | nil => exact h
  | cons x rest ih => exact ih (h.step x.1 x.2)

/-- A short history: Ada opens a session, Bob joins it and writes a letter, Ada leaves, and a sweep
much later removes the session. -/
def shortHistory : History := .still
  [(⟨0, 0⟩, .create "ada" "Ada" "primes" {}), (⟨1, 0⟩, .join "$s0" "bob" "Bob" .participant),
    (⟨2, 0⟩, .change "$s0" "bob" (.insert 0 "x")), (⟨3, 0⟩, .leave "ada"),
    (⟨4, 0⟩, .sweep ⟨9000, 0⟩)]

/-- Its first moment, at which the session is created. -/
def shortHistoryStart : Moment :=
  ⟨.still ⟨0, 0⟩, .create "ada" "Ada" "primes" {},
    ((Engine.new .default).step (.still ⟨0, 0⟩) (.create "ada" "Ada" "primes" {})).1⟩

/-- The session as it is created. -/
def shortHistorySnapshot : Snapshot :=
  (Session.start "$s0" "ada" "Ada" "primes" ⟨"Ada's session", "python", 4, false, false⟩
    ⟨0, 0⟩).snapshot

theorem mem_trace_shortHistory :
    shortHistoryStart ∈ (Engine.new .default).trace shortHistory :=
  List.mem_cons_self

theorem creation?_shortHistoryStart :
    shortHistoryStart.creation? "$s0" = some shortHistorySnapshot := by
  decide +kernel

/-- No history changes the configuration. -/
theorem config_after (history : History) : (e.after history).config = e.config := by
  induction history generalizing e with
  | nil => rfl
  | cons x rest ih =>
      rw [after_cons, ih]
      rcases e.step_cases x.1 x.2 with ⟨error, hstep⟩ | ⟨answer, e', hok, hstep⟩
      · rw [hstep]
      · rw [hstep]
        exact hok.config_eq

end Engine

open Engine in
/-- A turn of a sound session leads to a sound one. -/
theorem Turn.sound {config : Config} {m : Moment} {s s' : Session} {facts : List Fact}
    {notices : List Notice} (h : Turn config m s facts notices s') (hs : s.Sound) : s'.Sound := by
  cases h with
  | arrive _ _ hjoin => exact hs.join hjoin
  | depart _ _ hdepart => exact hs.depart hdepart
  | edit _ _ hedit =>
      have hedited := hs.edit hedit
      rw [limitHistory]
      split
      · exact hedited
      · exact hedited.compact _
  | point _ hmove => exact hs.moveCursor hmove
  | help _ hrequest => exact hs.requestHelp hrequest
  | giveUp => exact hs.close _

namespace Dossier

variable {config : Config} {sessionId : String} {c m : Moment} {moments : List Moment}
  {d : Dossier}

/-- How the dossier of a session develops from its creation on: `c` is the moment of the creation,
and the list holds the moments after it. -/
inductive Since (config : Config) (sessionId : String) (c : Moment) : List Moment → Dossier → Prop
  | begun {d : Dossier} (h : Begun config c sessionId d) : Since config sessionId c [] d
  | snoc {moments : List Moment} {m : Moment} {d d' : Dossier}
      (h : Since config sessionId c moments d) (hstep : Step config m sessionId d d') :
      Since config sessionId c (moments ++ [m]) d'

/-- How the dossier of a session comes about: nothing concerns the session before its creation. -/
inductive Life (config : Config) (sessionId : String) : List Moment → Dossier → Prop
  | unborn {moments : List Moment}
      (h : ∀ m ∈ moments, m.edit? sessionId = none ∧ m.creation? sessionId = none) :
      Life config sessionId moments (.blank sessionId)
  | born {past rest : List Moment} {c : Moment} {d : Dossier}
      (hpast : ∀ m ∈ past, m.edit? sessionId = none ∧ m.creation? sessionId = none)
      (h : Since config sessionId c rest d) : Life config sessionId (past ++ c :: rest) d

/-- Whatever has been created is on record. -/
theorem Since.facts_ne_nil (h : Since config sessionId c moments d) : d.recording.facts ≠ [] := by
  induction h with
  | begun h =>
      cases h with
      | created => simp [advance, Recording.facts_push]
  | snoc _ hstep ih =>
      cases hstep with
      | quiet => exact ih
      | turn _ hturn =>
          obtain ⟨s, facts, notices, s', -, -, -, rfl⟩ := hturn
          simp [advance, Recording.facts_extend, ih]
      | remove => exact ih

/-- A session is not created a second time. -/
theorem Since.creation?_eq_none (h : Since config sessionId c moments d) :
    ∀ m ∈ moments, m.creation? sessionId = none := by
  induction h with
  | begun => simp
  | snoc _ hstep ih =>
      intro m hm
      rcases List.mem_append.mp hm with hold | hnew
      · exact ih m hold
      · rw [List.mem_singleton.mp hnew]
        exact hstep.creation?_eq_none

/-- The session is created at the first moment. -/
theorem Since.creation?_eq_some (h : Since config sessionId c moments d) :
    ∃ snapshot, c.creation? sessionId = some snapshot := by
  induction h with
  | begun h =>
      obtain ⟨s, -, hcreation⟩ := h.creation?
      exact ⟨s.snapshot, hcreation⟩
  | snoc _ _ ih => exact ih

/-- One more moment. -/
theorem Life.snoc {d' : Dossier} (h : Life config sessionId moments d)
    (hmoved : Moved config m sessionId d d') : Life config sessionId (moments ++ [m]) d' := by
  cases h with
  | unborn h =>
      rcases hmoved with hstep | ⟨-, hbegun⟩
      · obtain ⟨rfl, hedit⟩ := hstep.of_blank
        refine .unborn fun m' hm' => ?_
        rcases List.mem_append.mp hm' with hold | hnew
        · exact h m' hold
        · rw [List.mem_singleton.mp hnew]
          exact ⟨hedit, hstep.creation?_eq_none⟩
      · exact .born h (.begun hbegun)
  | born hpast h =>
      rcases hmoved with hstep | ⟨rfl, -⟩
      · rw [List.append_assoc, List.cons_append]
        exact .born hpast (h.snoc hstep)
      · exact absurd rfl h.facts_ne_nil

/-- What has been created has developed since then. -/
theorem Life.of_creation {snapshot : Snapshot} (h : Life config sessionId moments d)
    (hc : c ∈ moments) (hcreation : c.creation? sessionId = some snapshot) :
    ∃ past rest, moments = past ++ c :: rest ∧
      (∀ m ∈ past, m.edit? sessionId = none ∧ m.creation? sessionId = none) ∧
      Since config sessionId c rest d := by
  cases h with
  | unborn h =>
      rw [(h c hc).2] at hcreation
      cases hcreation
  | @born past rest c' _ hpast h =>
      rcases List.mem_append.mp hc with hearly | hlate
      · rw [(hpast c hearly).2] at hcreation
        cases hcreation
      · rcases List.mem_cons.mp hlate with rfl | hafter
        · exact ⟨past, rest, rfl, hpast, h⟩
        · rw [h.creation?_eq_none c hafter] at hcreation
          cases hcreation

/-- What is there has been created, and has developed since then. -/
theorem Life.of_session {s : Session} (h : Life config sessionId moments d)
    (hs : d.session = some s) :
    ∃ past c rest, moments = past ++ c :: rest ∧ Since config sessionId c rest d := by
  cases h with
  | unborn => cases hs
  | @born past rest c _ _ h => exact ⟨past, c, rest, rfl, h⟩

/-- What holds of a session when it is created and is kept by its turns outlasts every moment. -/
theorem Moved.session_invariant {I : Session → Prop} {d' : Dossier}
    (hstart : ∀ hostId hostName assignmentId options settings now,
      Engine.settingsFor config hostName options = .ok settings →
        I (Session.start sessionId hostId hostName assignmentId settings now))
    (hturn : ∀ {s s' facts notices}, Turn config m s facts notices s' → I s → I s')
    (h : Moved config m sessionId d d') (hd : ∀ s, d.session = some s → I s) :
    ∀ s, d'.session = some s → I s := by
  intro s hs
  rcases h with hstep | ⟨-, hbegun⟩
  · cases hstep with
    | quiet => exact hd s hs
    | turn _ hturned =>
        obtain ⟨s₀, facts, notices, s', hs₀, -, ht, rfl⟩ := hturned
        obtain rfl := Option.some.inj hs
        exact hturn ht (hd s₀ hs₀)
    | remove => cases hs
  · cases hbegun with
    | created _ hsettings hstart' _ =>
        obtain rfl := Option.some.inj hs
        rw [hstart']
        exact hstart _ _ _ _ _ _ hsettings

/-- So it holds as long as the session is there. -/
theorem Since.session_invariant {I : Session → Prop}
    (hstart : ∀ hostId hostName assignmentId options settings now,
      Engine.settingsFor config hostName options = .ok settings →
        I (Session.start sessionId hostId hostName assignmentId settings now))
    (hturn : ∀ {m s s' facts notices}, Turn config m s facts notices s' → I s → I s')
    (h : Since config sessionId c moments d) : ∀ s, d.session = some s → I s := by
  induction h with
  | begun h =>
      have hmoved : Moved config c sessionId (.blank sessionId) _ := .inr ⟨rfl, h⟩
      exact hmoved.session_invariant hstart hturn nofun
  | snoc _ hstep ih =>
      have hmoved : Moved config _ sessionId _ _ := .inl hstep
      exact hmoved.session_invariant hstart hturn ih

/-- From the creation on, a session that is there is sound. -/
theorem Since.sound (h : Since config sessionId c moments d) :
    ∀ s, d.session = some s → s.Sound :=
  h.session_invariant (fun _ _ _ _ _ _ _ => Session.sound_start) Turn.sound

end Dossier

namespace Engine

/-- **Every history is a life of every session.** -/
theorem life_after (config : Config) (history : History) (sessionId : String) :
    Dossier.Life config sessionId ((Engine.new config).trace history)
      (((Engine.new config).after history).dossier sessionId) := by
  induction history using List.reverseRecOn with
  | nil => exact .unborn fun m hm => by cases hm
  | append_singleton history x ih =>
      have hmoved := ((coherent_new config).after history).step_dossier x.1 x.2 sessionId
      rw [config_after] at hmoved
      rw [trace_append, after_append]
      exact ih.snoc hmoved

/-- Every session is sound after every history. -/
theorem sound_after {config : Config} {history : History} {sessionId : String} {s : Session}
    (hs : ((Engine.new config).after history).sessions.get? sessionId = some s) : s.Sound := by
  obtain ⟨past, c, rest, -, hsince⟩ := (life_after config history sessionId).of_session hs
  exact hsince.sound s hs

end Engine

end CoEdit

import CoEdit.Engine.Views
import CoEdit.Proofs.Config
import CoEdit.Proofs.Engine.Admission
import CoEdit.Proofs.Engine.Places

/-!
# A Session Can Always Be Opened

Creating a session fails for two reasons only: the host has no id, or the session would have no
place. Where the settings are looked up, the second reason is left to whoever asks for no place in
so many words, since the settings leave room for the host whatever the variables hold. The state of
the engine plays no part, and neither does the session that the host is in.

The engine has to be there, though. Making it takes a channel of the capacity that is set for taps.
Such a channel comes from a library, and for which capacities there is one is a parameter here: none
above `channelMax`, and as many below it as memory allows. The settings are not checked against
this, so that variables can make an engine impossible.

## Main definitions

* `Snapshot.IsOpening`: a session as its host has just opened it.
* `Engine.Opens`: creating a session leads to such a one.

## Main results

* `isOpening_create`, `snapshot?_create`: what creating a session gives, and where it is shown.
* `Coherent.opens`: sessions can be opened in every coherent engine that has room for a host.
* `isSome_build?_iff`, `build?_eq_none`: whether an engine can be made.
* `opens_ofLookup`: what a look-up makes of the settings, and that an engine made with them can
  always be used.
* `not_built_wideTap`: settings that no engine can be made with.
-/

namespace CoEdit

open CoEdit.Time (Instant)

/-- A session as its host has just opened it: it waits, it has a title, and the host is online and
all alone in it. -/
structure Snapshot.IsOpening (view : Snapshot) (hostId : String) : Prop where
  waiting : view.status = .waiting
  titled : Text.isBlank view.title = false
  hosted : view.hostId = hostId
  alone : ∃ host, view.participants = [host] ∧ host.userId = hostId ∧ host.role = .host ∧
    host.isOnline = true

namespace Engine

variable {config : Config} {e e' : Engine} {hostId hostName assignmentId : String}
  {options : SessionOptions} {settings : SessionSettings} {view : Snapshot} {now : Clock}

/-- Creating a session succeeds, and what it gives is the opening of a session under a free id, as
the engine shows it from then on. -/
def Opens (e : Engine) (hostId hostName assignmentId : String) (options : SessionOptions)
    (now : Clock) : Prop :=
  ∃ view e', e.create hostId hostName assignmentId options now = .ok (view, e') ∧
    view.IsOpening hostId ∧ e.snapshot? view.id = none ∧ e'.snapshot? view.id = some view

/-! ### The settings of a session -/

/-- A session with a place can be settled. -/
theorem exists_settingsFor (hplaces : 1 ≤ config.maxParticipants)
    (hasked : options.maxParticipants ≠ some 0) (hostName : String) :
    ∃ settings, settingsFor config hostName options = .ok settings := by
  have hroom : options.maxParticipants.getD config.maxParticipants ≠ 0 := by
    cases hgiven : options.maxParticipants with
    | none => exact Nat.one_le_iff_ne_zero.mp hplaces
    | some n =>
        rintro rfl
        exact hasked hgiven
  exact ⟨_, if_neg hroom⟩

/-- A session that is settled has a title, be it the one that is made up. -/
theorem isBlank_title (h : settingsFor config hostName options = .ok settings) :
    Text.isBlank settings.title = false := by
  rw [settingsFor] at h
  split at h
  · cases h
  · obtain rfl := Except.ok.inj h
    have hmadeUp : Text.isBlank (hostName ++ "'s session") = false := by
      rw [Text.isBlank_append]
      exact Bool.and_false _
    dsimp only
    cases hasked : options.title.filter (!Text.isBlank ·) with
    | none => exact hmadeUp
    | some title =>
        have htitle := (Option.filter_eq_some_iff.mp hasked).2
        rwa [Bool.not_eq_true'] at htitle

/-! ### Opening a session -/

/-- Whoever has an id can open a session that has a place. -/
theorem exists_create (hplaces : 1 ≤ e.config.maxParticipants)
    (hhost : Text.isBlank hostId = false) (hasked : options.maxParticipants ≠ some 0)
    (hostName assignmentId : String) (now : Clock) :
    ∃ view e', e.create hostId hostName assignmentId options now = .ok (view, e') := by
  obtain ⟨settings, hsettings⟩ :=
    exists_settingsFor hplaces hasked (Text.orElseIfBlank hostName hostId)
  rw [create_eq, require_of_not_blank hhost, hsettings]
  exact ⟨_, _, rfl⟩

/-- Whatever creating a session gives is the opening of one. -/
theorem isOpening_create
    (hok : e.create hostId hostName assignmentId options now = .ok (view, e')) :
    view.IsOpening hostId := by
  obtain ⟨settings, hsettings, rfl, -⟩ := create_ok hok
  exact ⟨rfl, isBlank_title hsettings, rfl, _, rfl, rfl, rfl, rfl⟩

/-- A session that has been created is shown as it was given. -/
theorem snapshot?_create
    (hok : e.create hostId hostName assignmentId options now = .ok (view, e')) :
    e'.snapshot? view.id = some view := by
  obtain ⟨settings, -, rfl, rfl⟩ := create_ok hok
  exact congrArg (Option.map Session.snapshot) (Table.get?_put_self _ _ _)

/-- **Opening.** In an engine whose tables agree and whose settings leave room for a host, whoever
has an id can open a session, unless they ask for one without places. -/
theorem Coherent.opens (h : e.Coherent) (hplaces : 1 ≤ e.config.maxParticipants)
    (hhost : Text.isBlank hostId = false) (hasked : options.maxParticipants ≠ some 0)
    (hostName assignmentId : String) (now : Clock) :
    e.Opens hostId hostName assignmentId options now := by
  obtain ⟨view, e', hok⟩ := exists_create hplaces hhost hasked hostName assignmentId now
  have hid : view.id = e.freshSessionId := (sessionsMade_create hok).1
  refine ⟨view, e', hok, isOpening_create hok, ?_, snapshot?_create hok⟩
  rw [snapshot?, hid, h.fresh, Option.map_none]

/-! ### Making an engine -/

/-- An engine can be made iff the channel for its taps can. -/
theorem isSome_build?_iff {allots : Nat → Bool} :
    (build? allots config).isSome ↔ allots (max config.tapCapacity 1) := by
  rw [build?, Option.isSome_map, Gateway.build?]
  split <;> simp_all

/-- Every engine that is made starts out as a new one. -/
theorem build?_eq_some {allots : Nat → Bool} (h : build? allots config = some e) :
    e = .new config := by
  obtain ⟨gateway, hgateway, rfl⟩ := Option.map_eq_some_iff.mp h
  rw [Gateway.build?, Option.ite_none_right_eq_some, Option.some.injEq] at hgateway
  rw [← hgateway.2]
  rfl

/-- No engine can be made whose taps would need a channel above the largest one. -/
theorem build?_eq_none {allots : Nat → Bool} (hbounded : ∀ n, channelMax < n → allots n = false)
    (hlarge : channelMax < config.tapCapacity) : build? allots config = none := by
  have hrefused : allots (max config.tapCapacity 1) = false :=
    hbounded _ (hlarge.trans_le (Nat.le_max_left _ 1))
  rw [← Option.not_isSome_iff_eq_none, isSome_build?_iff, hrefused]
  exact Bool.false_ne_true

/-- **Whatever the variables hold, an engine that can be made can be used.** A look-up gives the one
configuration in which every setting follows the text of its own variable. No two settings share a
variable, and no other variable has a say in a setting. So there is always room for a host, and
always a language.

Whether an engine can be made at all is up to the capacity for taps alone. It can be iff there is a
channel of that capacity, or of one for nothing; and there is none above `channelMax`, which the
variable may well ask for. An engine that has been made is usable for good: in every state that it
can come to, whoever has an id can open a session, under whatever names and with whatever options
but that for no places. The session waits, it has a title, its host is online and all alone in it,
and the engine shows it from then on as it was given, under an id that was free. -/
theorem opens_ofLookup (allots : Nat → Bool) (hbounded : ∀ n, channelMax < n → allots n = false)
    (lookup : Config.Lookup) :
    (∀ c : Config, c.Follows lookup ↔ c = .ofLookup lookup) ∧
    Function.Injective Setting.name ∧
    (∀ (other : Config.Lookup) (x : Setting), other x.name = lookup x.name →
      x.value (.ofLookup other) = x.value (.ofLookup lookup)) ∧
    1 ≤ (Config.ofLookup lookup).maxParticipants ∧
    Text.isBlank (Config.ofLookup lookup).defaultLanguage = false ∧
    (channelMax < (Config.ofLookup lookup).tapCapacity →
      build? allots (.ofLookup lookup) = none) ∧
    ((build? allots (.ofLookup lookup)).isSome ↔
      allots (max (Config.ofLookup lookup).tapCapacity 1)) ∧
    (∀ e : Engine, build? allots (.ofLookup lookup) = some e → e.Reachable (.ofLookup lookup)) ∧
    ∀ e : Engine, e.Reachable (.ofLookup lookup) →
      ∀ hostId, Text.isBlank hostId = false →
      ∀ options : SessionOptions, options.maxParticipants ≠ some 0 →
      ∀ hostName assignmentId now, e.Opens hostId hostName assignmentId options now := by
  refine ⟨fun c => Config.follows_iff, Setting.name_injective, ?_,
    Config.maxParticipants_ofLookup_pos lookup, Config.isBlank_defaultLanguage lookup,
    build?_eq_none hbounded, isSome_build?_iff, ?_, ?_⟩
  · intro other x hsame
    exact Setting.value_congr hsame
  · intro e hmade
    rw [build?_eq_some hmade]
    exact Reachable.new
  · intro e he hostId hhost options hasked hostName assignmentId now
    have hplaces : 1 ≤ e.config.maxParticipants := by
      rw [he.config_eq]
      exact Config.maxParticipants_ofLookup_pos lookup
    exact he.coherent.opens hplaces hhost hasked hostName assignmentId now

/-- Odd variables do no harm where a channel for taps can be made: Ada, who is in one session, opens
another, for herself alone. -/
theorem opens_ofLookup_oddVariables :
    let allots := fun n => decide (n ≤ channelMax)
    let e := (Engine.new (.ofLookup Config.oddVariables)).after
      [(.still ⟨0, 0⟩, .create "ada" "Ada" "primes" {})]
    (∀ n, channelMax < n → allots n = false) ∧
      (build? allots (.ofLookup Config.oddVariables)).isSome ∧
      e.sessionOf? "ada" = some "$s0" ∧
      e.Opens "ada" " " "more primes" { maxParticipants := some 1 } (.still ⟨1, 0⟩) := by
  intro allots e
  have hbounded : ∀ n, channelMax < n → allots n = false := fun n hn =>
    decide_eq_false (Nat.not_le.mpr hn)
  have he : e.Reachable (.ofLookup Config.oddVariables) := Reachable.new.after _
  have hada : e.sessionOf? "ada" = some "$s0" := by decide +kernel
  obtain ⟨-, -, -, -, -, -, hmade, -, hopens⟩ := opens_ofLookup allots hbounded Config.oddVariables
  exact ⟨hbounded, hmade.mpr (by decide +kernel), hada,
    hopens e he "ada" (by decide) { maxParticipants := some 1 } (by decide) " " "more primes"
      (.still ⟨1, 0⟩)⟩

/-- Variables that ask for the largest number of messages that a word can hold, for a tap to lag
behind by. -/
def wideTap : Config.Lookup
  | "COLLAB_TAP_CAPACITY" => some "18446744073709551615"
  | _ => none

/-- Variables can ask for what no engine can be made with: the number is a capacity as good as any,
all other settings have their defaults, and there is no channel that large. -/
theorem not_built_wideTap :
    Config.ofLookup wideTap = { tapCapacity := 18446744073709551615 } ∧
    ¬∃ allots : Nat → Bool, (∀ n, channelMax < n → allots n = false) ∧
      (build? allots (.ofLookup wideTap)).isSome := by
  have hwide : Config.ofLookup wideTap = { tapCapacity := 18446744073709551615 } := by
    decide +kernel
  refine ⟨hwide, ?_⟩
  rintro ⟨allots, hbounded, hmade⟩
  have hnone : build? allots (.ofLookup wideTap) = none :=
    build?_eq_none hbounded (by rw [hwide]; decide)
  rw [hnone] at hmade
  exact Bool.false_ne_true hmade

end Engine

end CoEdit

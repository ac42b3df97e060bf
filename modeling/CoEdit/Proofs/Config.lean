import CoEdit.Config
import CoEdit.Proofs.Decimal.Word
import CoEdit.Proofs.Text.Blank

/-!
# What Each Setting Is Set To

Every setting has a variable of its own. If the text of the variable stands for a value of the
setting, this is the value, and in all other cases the setting keeps its default: if the variable is
missing, blank, no number, a number beyond the largest word, or a number of participants that leaves
no room for the host.

## Main definitions

* `Denotes`: a text stands for a number.
* `Setting`, with the name of its variable, its values, and `Setting.read?`, which reads one.
* `Setting.Says`: a text stands for a value of the setting.
* `Setting.Follows`: a value is what the setting has to be, given the text of its variable.
* `Config.Follows`: all settings are.

## Main results

* `Setting.read?_eq_some_iff`: the values that are read are those that the text stands for.
* `Setting.Follows.unique`: the text of its variable determines a setting.
* `Config.follows_iff`: what a look-up makes of the settings.
-/

namespace CoEdit

/-- A text stands for a number: up to white space at its ends it spells a word. -/
def Denotes (text : String) (n : Nat) : Prop :=
  ∃ t, Text.Trims text t ∧ Decimal.Spells t n ∧ n ≤ Decimal.wordMax

theorem denotes_iff {text : String} {n : Nat} :
    Decimal.word? (Text.trim text) = some n ↔ Denotes text n := by
  rw [Decimal.word?_eq_some_iff]
  constructor
  · rintro h
    exact ⟨_, Text.trims_trim text, h⟩
  · rintro ⟨t, htrims, h⟩
    obtain rfl := Text.trims_iff.mp htrims
    exact h

/-- The settings of an engine. -/
inductive Setting
  | maxParticipants
  | defaultLanguage
  | idleTimeout
  | endedRetention
  | reapInterval
  | historyLimit
  | tapCapacity
  deriving DecidableEq, Repr

namespace Setting

variable {x : Setting} {text : String}

/-- The variable that a setting is looked up under. -/
def name : Setting → String
  | maxParticipants => "COLLAB_MAX_PARTICIPANTS"
  | defaultLanguage => "COLLAB_DEFAULT_LANGUAGE"
  | idleTimeout => "COLLAB_IDLE_TIMEOUT_SECS"
  | endedRetention => "COLLAB_ENDED_RETENTION_SECS"
  | reapInterval => "COLLAB_REAP_INTERVAL_SECS"
  | historyLimit => "COLLAB_HISTORY_LIMIT"
  | tapCapacity => "COLLAB_TAP_CAPACITY"

/-- The variables are known by their places in the list of all names. -/
theorem ofNat_idxOf_name : (x : Setting) → ofNat (Config.names.idxOf x.name) = x := by
  rintro (_ | _) <;> decide +kernel

/-- No two settings share a variable. -/
theorem name_injective : Function.Injective name :=
  Function.LeftInverse.injective (g := fun key => ofNat (Config.names.idxOf key)) ofNat_idxOf_name

/-- What a setting can be set to. -/
abbrev Value : Setting → Type
  | defaultLanguage => String
  | historyLimit => Option Nat
  | maxParticipants | idleTimeout | endedRetention | reapInterval | tapCapacity => Nat

/-- What a setting is set to. -/
def value (c : Config) : (x : Setting) → x.Value
  | maxParticipants => c.maxParticipants
  | defaultLanguage => c.defaultLanguage
  | idleTimeout => c.idleTimeoutSecs
  | endedRetention => c.endedRetentionSecs
  | reapInterval => c.reapIntervalSecs
  | historyLimit => c.historyLimit
  | tapCapacity => c.tapCapacity

/-- A text stands for a value of a setting. A number of participants is not zero, since the host has
to fit in; a language is what lies between the white space at the ends, and not blank. -/
def Says : (x : Setting) → String → x.Value → Prop
  | maxParticipants, text, n => Denotes text n ∧ n ≠ (0 : Nat)
  | defaultLanguage, text, language => Text.isBlank text = false ∧ Text.Trims text language
  | historyLimit, text, limit => ∃ n, limit = some n ∧ Denotes text n
  | idleTimeout, text, n | endedRetention, text, n | reapInterval, text, n
  | tapCapacity, text, n => Denotes text n

/-- A value is what a setting has to be, given the text of its variable, if it has one: what the
text stands for, or the default if it stands for nothing. -/
def Follows (x : Setting) (given : Option String) (v : x.Value) : Prop :=
  (∃ text ∈ given, x.Says text v) ∨
    (∀ text ∈ given, ∀ w, ¬x.Says text w) ∧ v = x.value .default

/-- The value of a setting that is read off a text. -/
def read? : (x : Setting) → String → Option x.Value
  | maxParticipants, text => (Decimal.word? (Text.trim text)).filter (· ≠ 0)
  | defaultLanguage, text => if Text.isBlank text then none else some (Text.trim text)
  | historyLimit, text => (Decimal.word? (Text.trim text)).map some
  | idleTimeout, text | endedRetention, text | reapInterval, text
  | tapCapacity, text => Decimal.word? (Text.trim text)

/-- **The values that are read are those that the text stands for.** -/
theorem read?_eq_some_iff {x : Setting} {v : x.Value} : x.read? text = some v ↔ x.Says text v := by
  cases x with
  | maxParticipants =>
      rw [read?, Says, Option.filter_eq_some_iff, denotes_iff, decide_eq_true_eq]
  | defaultLanguage =>
      rw [read?, Says, Text.trims_iff]
      cases Text.isBlank text with
      | true => simp
      | false => simp [eq_comm]
  | historyLimit =>
      rw [read?, Says, Option.map_eq_some_iff]
      refine exists_congr fun n => ?_
      rw [denotes_iff, and_comm, eq_comm]
  | idleTimeout | endedRetention | reapInterval | tapCapacity =>
      rw [read?, Says]
      exact denotes_iff

/-- Every setting is read off the text of its own variable, and keeps its default otherwise. -/
theorem value_ofLookup (lookup : Config.Lookup) (x : Setting) :
    x.value (.ofLookup lookup) = ((lookup x.name).bind x.read?).getD (x.value .default) := by
  -- Four settings are plain numbers. The others take fewer numbers, a text, or a number or nothing.
  cases x with
  | maxParticipants =>
      dsimp only [value, Config.ofLookup, Config.number?, name]
      cases lookup "COLLAB_MAX_PARTICIPANTS" with
      | none => rfl
      | some text => rw [Option.bind_some, Option.bind_some, read?]
  | defaultLanguage =>
      dsimp only [value, Config.ofLookup, name]
      cases lookup "COLLAB_DEFAULT_LANGUAGE" with
      | none => rfl
      | some text =>
          rw [Option.filter_some, Option.bind_some, read?]
          cases Text.isBlank text with
          | true => rfl
          | false => rfl
  | historyLimit =>
      dsimp only [value, Config.ofLookup, Config.number?, name]
      cases lookup "COLLAB_HISTORY_LIMIT" with
      | none => rfl
      | some text =>
          rw [Option.bind_some, Option.bind_some, read?]
          cases Decimal.word? (Text.trim text) with
          | none => rfl
          | some n => rfl
  | idleTimeout | endedRetention | reapInterval | tapCapacity =>
      dsimp only [value, Config.ofLookup, Config.number?, name]
      cases lookup _ with
      | none => rfl
      | some text => rw [Option.bind_some, Option.bind_some, read?]

/-- **Every setting follows the text of its variable.** -/
theorem follows_ofLookup (x : Setting) (lookup : Config.Lookup) :
    x.Follows (lookup x.name) (x.value (.ofLookup lookup)) := by
  rw [value_ofLookup, Follows]
  cases lookup x.name with
  | none => exact .inr ⟨fun _ h => absurd h (Option.not_mem_none _), rfl⟩
  | some text =>
      rw [Option.bind_some]
      cases hread : x.read? text with
      | none =>
          right
          refine ⟨?_, rfl⟩
          rintro _ ⟨⟩ w hsays
          rw [read?_eq_some_iff.mpr hsays] at hread
          cases hread
      | some v => exact .inl ⟨text, rfl, read?_eq_some_iff.mp hread⟩

/-- The text of its variable determines what a setting is. -/
theorem Follows.unique {given : Option String} {v w : x.Value} (hv : x.Follows given v)
    (hw : x.Follows given w) : v = w := by
  rcases hv with ⟨text, htext, hv⟩ | ⟨hnone, hv⟩
  · rcases hw with ⟨text', htext', hw⟩ | ⟨hnone, -⟩
    · obtain rfl := Option.mem_unique htext htext'
      rw [← read?_eq_some_iff] at hv hw
      exact Option.some.inj (hv.symm.trans hw)
    · exact absurd hv (hnone text htext v)
  · rcases hw with ⟨text, htext, hw⟩ | ⟨-, hw⟩
    · exact absurd hw (hnone text htext w)
    · exact hv.trans hw.symm

/-- No other variable has a say in a setting. -/
theorem value_congr {lookup other : Config.Lookup} (h : other x.name = lookup x.name) :
    x.value (.ofLookup other) = x.value (.ofLookup lookup) := by
  have hother := follows_ofLookup x other
  rw [h] at hother
  exact hother.unique (follows_ofLookup x lookup)

end Setting

namespace Config

variable {c c' : Config}

/-- Every setting follows the text of its variable. -/
def Follows (c : Config) (lookup : Lookup) : Prop :=
  ∀ x : Setting, x.Follows (lookup x.name) (x.value c)

/-- There is nothing more to be set. -/
theorem ext_value (h : ∀ x : Setting, x.value c = x.value c') : c = c' := by
  cases c with
  | mk =>
  cases c' with
  | mk =>
  rw [mk.injEq]
  exact ⟨h .maxParticipants, h .defaultLanguage, h .idleTimeout, h .endedRetention,
    h .reapInterval, h .historyLimit, h .tapCapacity⟩

/-- **What a look-up makes of the settings** is the one configuration in which every setting follows
the text of its variable. -/
theorem follows_iff {lookup : Lookup} : c.Follows lookup ↔ c = ofLookup lookup := by
  constructor
  · intro h
    refine ext_value fun x => ?_
    exact (h x).unique (x.follows_ofLookup lookup)
  · rintro rfl x
    exact x.follows_ofLookup lookup

/-- No room for a host, a blank language, white space and a plus sign around a number, and a number
beyond the largest word. -/
def oddVariables : Lookup
  | "COLLAB_MAX_PARTICIPANTS" => some "0"
  | "COLLAB_DEFAULT_LANGUAGE" => some " \n"
  | "COLLAB_HISTORY_LIMIT" => some " +0012\n"
  | "COLLAB_TAP_CAPACITY" => some "18446744073709551616"
  | _ => none

example : ofLookup oddVariables = { historyLimit := some 12 } := by decide +kernel

/-- A session always has room for its host. -/
theorem maxParticipants_ofLookup_pos (lookup : Lookup) : 1 ≤ (ofLookup lookup).maxParticipants := by
  rcases Setting.follows_ofLookup .maxParticipants lookup with ⟨_, -, -, hpos⟩ | ⟨-, hdefault⟩
  · exact Nat.one_le_iff_ne_zero.mpr hpos
  · have hfour : (ofLookup lookup).maxParticipants = default.maxParticipants := hdefault
    rw [hfour]
    decide

/-- A session always has a language. -/
theorem isBlank_defaultLanguage (lookup : Lookup) :
    Text.isBlank (ofLookup lookup).defaultLanguage = false := by
  rcases Setting.follows_ofLookup .defaultLanguage lookup with
    ⟨text, -, hblank, htrims⟩ | ⟨-, hdefault⟩
  · exact htrims.isBlank_eq.trans hblank
  · have hpython : (ofLookup lookup).defaultLanguage = default.defaultLanguage := hdefault
    rw [hpython]
    decide

end Config

end CoEdit

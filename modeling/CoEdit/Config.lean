import CoEdit.Decimal.Word
import CoEdit.Text.Blank
import CoEdit.Time.Instant

/-!
# Settings

What can be set about an engine, the defaults, and how the settings are looked up by name, as in the
environment of a process. A setting that cannot be understood keeps its default.

## Main definitions

* `Config`, whose fields carry the defaults.
* `Config.ofLookup`: the settings that a look-up function gives.
* `Config.idleTimeout`, `Config.endedRetention`, `Config.reapInterval`: the durations.
-/

namespace CoEdit

/-- What can be set about an engine. -/
structure Config where
  /-- How many participants a session may have online unless it says otherwise. -/
  maxParticipants : Nat := 4
  /-- The language of a session that names none. -/
  defaultLanguage : String := "python"
  /-- After how many seconds a waiting session is given up. -/
  idleTimeoutSecs : Nat := 1800
  /-- For how many seconds an ended session is kept. -/
  endedRetentionSecs : Nat := 600
  /-- How many seconds lie between two sweeps. -/
  reapIntervalSecs : Nat := 60
  /-- How many changes a session remembers one by one; all of them if none. -/
  historyLimit : Option Nat := none
  /-- How many messages a tap can lag behind. -/
  tapCapacity : Nat := 1024
  deriving DecidableEq, Repr

namespace Config

/-- The defaults. -/
def default : Config := {}

/-- A look-up of settings by name. -/
abbrev Lookup := String → Option String

/-- The names of all settings. -/
def names : List String :=
  ["COLLAB_MAX_PARTICIPANTS", "COLLAB_DEFAULT_LANGUAGE", "COLLAB_IDLE_TIMEOUT_SECS",
    "COLLAB_ENDED_RETENTION_SECS", "COLLAB_REAP_INTERVAL_SECS", "COLLAB_HISTORY_LIMIT",
    "COLLAB_TAP_CAPACITY"]

/-- The number that a setting spells, white space around it aside. -/
def number? (lookup : Lookup) (name : String) : Option Nat :=
  (lookup name).bind fun s => Decimal.word? (Text.trim s)

/-- The settings that a look-up gives. Every setting has a variable of its own; a session has to
have room for its host, so that zero participants are ignored. -/
def ofLookup (lookup : Lookup) : Config where
  maxParticipants :=
    ((number? lookup "COLLAB_MAX_PARTICIPANTS").filter (· ≠ 0)).getD default.maxParticipants
  defaultLanguage :=
    (((lookup "COLLAB_DEFAULT_LANGUAGE").filter (!Text.isBlank ·)).map Text.trim).getD
      default.defaultLanguage
  idleTimeoutSecs := (number? lookup "COLLAB_IDLE_TIMEOUT_SECS").getD default.idleTimeoutSecs
  endedRetentionSecs :=
    (number? lookup "COLLAB_ENDED_RETENTION_SECS").getD default.endedRetentionSecs
  reapIntervalSecs := (number? lookup "COLLAB_REAP_INTERVAL_SECS").getD default.reapIntervalSecs
  historyLimit := (number? lookup "COLLAB_HISTORY_LIMIT").or default.historyLimit
  tapCapacity := (number? lookup "COLLAB_TAP_CAPACITY").getD default.tapCapacity

/-- The longest duration in seconds: its milliseconds fit a signed word of 64 bits. -/
def longestSeconds : Nat := 9223372036854775

/-- A number of seconds, cut to the longest duration. -/
def seconds (secs : Nat) : Nat :=
  min secs longestSeconds

/-- How long a session may wait, in seconds. -/
def idleTimeout (c : Config) : Nat :=
  seconds c.idleTimeoutSecs

/-- How long an ended session is kept, in seconds. -/
def endedRetention (c : Config) : Nat :=
  seconds c.endedRetentionSecs

/-- The seconds between two sweeps, at least one. -/
def reapInterval (c : Config) : Nat :=
  max c.reapIntervalSecs 1

end Config

end CoEdit

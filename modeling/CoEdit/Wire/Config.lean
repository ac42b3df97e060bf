import CoEdit.Config
import CoEdit.Decode.Record

/-!
# Settings as JSON

## Main definitions

* `Config.toJson`, `Config.decode`: every field may be absent and then has its default.
-/

namespace CoEdit.Config

open CoEdit.Decode

/-- Settings as an object. -/
def toJson (c : Config) : Json :=
  .object [("max_participants", .nat c.maxParticipants),
    ("default_language", .text c.defaultLanguage),
    ("idle_timeout_secs", .nat c.idleTimeoutSecs),
    ("ended_retention_secs", .nat c.endedRetentionSecs),
    ("reap_interval_secs", .nat c.reapIntervalSecs), ("history_limit", .optNat c.historyLimit),
    ("tap_capacity", .nat c.tapCapacity)]

/-- The fields of settings. -/
def record : Record Config :=
  Config.mk <$> .defaulted "max_participants" count default.maxParticipants <*>
    .defaulted "default_language" text default.defaultLanguage <*>
    .defaulted "idle_timeout_secs" serial default.idleTimeoutSecs <*>
    .defaulted "ended_retention_secs" serial default.endedRetentionSecs <*>
    .defaulted "reap_interval_secs" serial default.reapIntervalSecs <*>
    .defaulted "history_limit" (nullable count) default.historyLimit <*>
    .defaulted "tap_capacity" count default.tapCapacity

/-- Reads settings. -/
def decode : Decoder Config :=
  record.decode "EngineConfig"

end CoEdit.Config

import Latchkey.Settings.Raw
import Latchkey.Settings.Sections

set_option autoImplicit false

/-! # Settings from raw values

Every setting takes the raw value of its name in the way of its kind, and keeps its default where
there is none. Names that no setting has are passed over. One value that cannot be taken spoils the
whole. -/

namespace Latchkey

/-- An environment out of a raw value. -/
def Environment.ofRaw? (raw : Raw) : Option Environment :=
  raw.word?.bind ofWord?

/-- A format out of a raw value. -/
def LogFormat.ofRaw? (raw : Raw) : Option LogFormat :=
  raw.word?.bind ofWord?

/-- The section out of a raw value. -/
def LoggingSettings.ofRaw? (raw : Raw) : Option LoggingSettings := do
  let d : LoggingSettings := {}
  let f ← raw.section? fieldNames
  let level ← f.orElse? "level" Raw.text? d.level
  let format ← f.orElse? "format" LogFormat.ofRaw? d.format
  return ⟨level, format⟩

/-- The section out of a raw value. -/
def TokenSettings.ofRaw? (raw : Raw) : Option TokenSettings := do
  let d : TokenSettings := {}
  let f ← raw.section? fieldNames
  let issuer ← f.orElse? "issuer" Raw.text? d.issuer
  let audience ← f.orElse? "audience" Raw.text? d.audience
  let ttl ← f.orElse? "refresh_token_ttl" Raw.integer? d.refreshTokenTtl
  return ⟨issuer, audience, ttl⟩

/-- The section out of a raw value. -/
def RotationSettings.ofRaw? (raw : Raw) : Option RotationSettings := do
  let d : RotationSettings := {}
  let f ← raw.section? fieldNames
  let window ← f.orElse? "selection_window" Raw.natural? d.selectionWindow
  let least ← f.orElse? "min_usable_keys" Raw.natural? d.minUsableKeys
  let age ← f.orElse? "max_key_age_days" Raw.integer? d.maxKeyAgeDays
  let bits ← f.orElse? "encryption_key_bits" Raw.natural? d.encryptionKeyBits
  let encryptionAge ← f.orElse? "max_encryption_key_age_days" Raw.integer? d.maxEncryptionKeyAgeDays
  return ⟨window, least, age, bits, encryptionAge⟩

/-- The section out of a raw value. -/
def SchedulerSettings.ofRaw? (raw : Raw) : Option SchedulerSettings := do
  let d : SchedulerSettings := {}
  let f ← raw.section? fieldNames
  let hour ← f.orElse? "rotation_hour" Raw.natural32? d.rotationHour
  let minute ← f.orElse? "rotation_minute" Raw.natural32? d.rotationMinute
  let second ← f.orElse? "rotation_second" Raw.natural32? d.rotationSecond
  let period ← f.orElse? "period_seconds" Raw.natural? d.periodSeconds
  let start ← f.orElse? "test_task_prefix" Raw.text? d.testTaskPrefix
  let offset ← f.orElse? "test_clock_offset_seconds" Raw.integer? d.testClockOffsetSeconds
  return ⟨hour, minute, second, period, start, offset⟩

/-- The section out of a raw value. -/
def DatabaseSettings.ofRaw? (raw : Raw) : Option DatabaseSettings := do
  let d : DatabaseSettings := {}
  let f ← raw.section? fieldNames
  let url ← f.orElse? "url" Raw.text? d.url
  let connections ← f.orElse? "max_connections" Raw.natural32? d.maxConnections
  let connect ← f.orElse? "connect_timeout" Raw.natural? d.connectTimeout
  let idle ← f.orElse? "idle_timeout" Raw.natural? d.idleTimeout
  let lifetime ← f.orElse? "max_lifetime" Raw.natural? d.maxLifetime
  let slow ← f.orElse? "slow_query_threshold" Raw.natural? d.slowQueryThreshold
  return ⟨url, connections, connect, idle, lifetime, slow⟩

/-- All settings out of raw fields. -/
def Settings.ofFields? (f : Raw.Fields) : Option Settings := do
  let environment ← f.orElse? "environment" Environment.ofRaw? .development
  let database ← f.orElse? "database" DatabaseSettings.ofRaw? {}
  let token ← f.orElse? "token" TokenSettings.ofRaw? {}
  let keyRotation ← f.orElse? "key_rotation" RotationSettings.ofRaw? {}
  let scheduler ← f.orElse? "scheduler" SchedulerSettings.ofRaw? {}
  let logging ← f.orElse? "logging" LoggingSettings.ofRaw? {}
  return ⟨environment, database, token, keyRotation, scheduler, logging⟩

end Latchkey

import Latchkey.Settings.Sections
import Latchkey.Text.Padded

set_option autoImplicit false

/-! # Checking settings

Rules that span fields or bound them. The first rule that is broken is reported: those of the token
section come first, then those of key rotation, then those of the scheduler. -/

namespace Latchkey

/-- A rule that settings break. -/
inductive SettingsFault
  | emptyParty
  | lifetimeOutOfRange (seconds : Int)
  | emptyWindow
  | poolExceedsWindow (least window : Nat)
  | keyAgeOutOfRange (days encryptionDays : Int)
  | noTimeOfDay (hour minute second : Nat)
  | zeroPeriod
deriving DecidableEq, Repr

namespace SettingsFault

/-- The longest lifetime of a token, ten years of seconds. -/
def maxLifetime : Int := 315360000

/-- The greatest age of a key, ten years of days. -/
def maxAgeDays : Int := 3650

/-- A time of day as three numbers of two digits or more. -/
def clockText (hour minute second : Nat) : String :=
  Text.padded 2 hour ++ ":" ++ Text.padded 2 minute ++ ":" ++ Text.padded 2 second

/-- What is wrong, in words. -/
def reason : SettingsFault → String
  | .emptyParty => "token issuer and audience must not be empty"
  | .lifetimeOutOfRange seconds =>
    s!"token.refresh_token_ttl must be in 1..={maxLifetime}, got {seconds}"
  | .emptyWindow => "key_rotation.selection_window must be at least 1"
  | .poolExceedsWindow least window =>
    s!"key_rotation.min_usable_keys ({least}) exceeds selection_window ({window})"
  | .keyAgeOutOfRange days encryptionDays =>
    s!"key ages must be in 1..={maxAgeDays} days, got {days} and {encryptionDays}"
  | .noTimeOfDay hour minute second => "invalid rotation time " ++ clockText hour minute second
  | .zeroPeriod => "scheduler.period_seconds must be positive"

/-- The wording of the report. -/
def message (fault : SettingsFault) : String :=
  "Invalid configuration: " ++ fault.reason

end SettingsFault

open SettingsFault

/-- The first rule that the token section breaks. -/
def TokenSettings.validate (s : TokenSettings) : Except SettingsFault Unit :=
  if s.issuer.isEmpty || s.audience.isEmpty then .error .emptyParty
  else if s.refreshTokenTtl ≤ 0 ∨ maxLifetime < s.refreshTokenTtl then
    .error (.lifetimeOutOfRange s.refreshTokenTtl)
  else .ok ()

/-- Whether a key age is allowed. -/
def RotationSettings.ageInRange (days : Int) : Bool :=
  1 ≤ days && days ≤ maxAgeDays

/-- The first rule that the rotation section breaks. -/
def RotationSettings.validate (s : RotationSettings) : Except SettingsFault Unit :=
  if s.selectionWindow = 0 then .error .emptyWindow
  else if s.selectionWindow < s.minUsableKeys then
    .error (.poolExceedsWindow s.minUsableKeys s.selectionWindow)
  else if !ageInRange s.maxKeyAgeDays || !ageInRange s.maxEncryptionKeyAgeDays then
    .error (.keyAgeOutOfRange s.maxKeyAgeDays s.maxEncryptionKeyAgeDays)
  else .ok ()

/-- The first rule that the scheduler section breaks. -/
def SchedulerSettings.validate (s : SchedulerSettings) : Except SettingsFault Unit :=
  if 23 < s.rotationHour ∨ 59 < s.rotationMinute ∨ 59 < s.rotationSecond then
    .error (.noTimeOfDay s.rotationHour s.rotationMinute s.rotationSecond)
  else if s.periodSeconds = 0 then .error .zeroPeriod
  else .ok ()

/-- The first rule that the settings break. -/
def Settings.validate (s : Settings) : Except SettingsFault Unit := do
  s.token.validate
  s.keyRotation.validate
  s.scheduler.validate

end Latchkey

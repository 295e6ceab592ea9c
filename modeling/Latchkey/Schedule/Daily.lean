import Latchkey.Error
import Latchkey.Schedule.Clock
import Latchkey.Settings.Validation

set_option autoImplicit false

/-! # Daily slots

A daily task has a slot, the instant of its time of day, on every date. An evaluation within half a
minute of today's slot is on time, runs the task and waits for one period. A later one runs the task
if today's slot was not yet served, and waits for tomorrow's; an earlier one just waits. -/

namespace Latchkey

/-- A time of day and the milliseconds between runs that are on time. A period has no finer parts
    here, as timers have none. -/
structure DailySchedule where
  time : TimeOfDay
  period : Nat
deriving DecidableEq

/-- What an evaluation decides. -/
structure FireDecision where
  /-- Whether to run the task before waiting. -/
  runNow : Bool
  /-- Milliseconds to wait. -/
  delay : Nat
deriving DecidableEq, Repr

namespace DailySchedule

/-- Seconds in a day, the usual period. -/
def oneDay : Nat := Span.secondsPerDay

/-- The milliseconds of a number of seconds. -/
def millis (seconds : Nat) : Nat := 1000 * seconds

/-- An evaluation closer to the slot than this many seconds is on time. -/
def driftTolerance : Nat := 30

/-- The schedule of a time of day, repeating every day. -/
def ofParts (hour minute second : Nat) : Except Error DailySchedule :=
  match TimeOfDay.ofParts? hour minute second with
  | some time => .ok ⟨time, millis oneDay⟩
  | none => .error (.internal
      ("invalid time of day " ++ SettingsFault.clockText hour minute second))

/-- The schedule with another period. -/
def withPeriod (s : DailySchedule) (period : Nat) : DailySchedule :=
  { s with period := period }

/-- The schedule of the settings. -/
def ofSettings (s : SchedulerSettings) : Except Error DailySchedule :=
  (ofParts s.rotationHour s.rotationMinute s.rotationSecond).map fun schedule =>
    schedule.withPeriod (millis s.periodSeconds)

/-- The second of a date's slot. -/
def slot (s : DailySchedule) (date : Date) : Int :=
  date.day * Span.secondsPerDay + s.time.seconds

/-- Decides what to do at an instant, given the date last served, and says which date counts as
    served afterwards. -/
def nextFire (s : DailySchedule) (now : Instant) (caughtUp : Option Date) :
    FireDecision × Option Date :=
  let today := now.date
  let offset := now.seconds - s.slot today
  if offset.natAbs < driftTolerance then (⟨true, s.period⟩, some today)
  else if 0 < offset then (⟨caughtUp != some today, millis (oneDay - offset.natAbs)⟩, some today)
  else (⟨false, millis offset.natAbs⟩, caughtUp)

/-- The time of day as text. -/
def timeText (s : DailySchedule) : String :=
  SettingsFault.clockText s.time.hour s.time.minute s.time.second

end DailySchedule

end Latchkey

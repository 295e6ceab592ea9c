import Latchkey.Key.Maintenance
import Latchkey.Schedule.Scheduler

set_option autoImplicit false

/-! # The key tasks

Two tasks look after the key pools: one fills the pool of signing keys right after the start, the
other runs a maintenance pass every day. -/

namespace Latchkey

/-- What the key tasks do. -/
inductive KeyChore
  /-- Fills the pool of signing keys. -/
  | seed
  /-- Runs a maintenance pass. -/
  | rotate
deriving DecidableEq, Repr

namespace KeyChore

/-- The name of the task that does the chore. -/
def taskName : KeyChore → String
  | .seed => "seed-signing-keys"
  | .rotate => "rotate-jwk"

/-- What the task's action does at an instant. -/
def operation (s : RotationSettings) (now : Instant) : KeyChore → Operation Unit
  | .seed => do
    let _ ← Maintenance.ensureSigning s
  | .rotate => .mk ((Maintenance.pass s now).bind fun report =>
      .done (report.toResult.map fun _ => ()))

end KeyChore

/-- Why the key tasks could not all be listed. -/
inductive KeyTaskFault
  /-- A name is in use, or the time of day is none. -/
  | refused (cause : Error)
  /-- The offset for test clocks is not a span. -/
  | noClock
deriving DecidableEq, Repr

namespace Scheduler

variable {α : Type}

/-- Lists the key tasks: first the one that fills the pool, then, if the settings name a time of day
    and a clock, the daily one. -/
def addKeyTasks (action : KeyChore → α) (settings : SchedulerSettings) (s : Scheduler α) :
    Except KeyTaskFault Unit × Scheduler α :=
  match s.add { name := KeyChore.taskName .seed, duty := .once, action := action .seed } with
  | (.error e, s) => (.error (.refused e), s)
  | (.ok (), s) =>
    match DailySchedule.ofSettings settings with
    | .error e => (.error (.refused e), s)
    | .ok schedule =>
      match Clock.forTask? settings (KeyChore.taskName .rotate) with
      | none => (.error .noClock, s)
      | some clock =>
        let (result, s) := s.add
          { name := KeyChore.taskName .rotate, duty := .daily schedule clock,
            action := action .rotate }
        (result.mapError .refused, s)

end Scheduler

end Latchkey

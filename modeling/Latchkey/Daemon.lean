import Latchkey.Database.Connection
import Latchkey.Schedule.KeyTasks
import Latchkey.Settings.Sources

set_option autoImplicit false

/-! # The daemon

The daemon loads its settings, connects to the database, asks whether that is well, brings the
schema up to date and lists the key tasks. The first of these that fails ends it. -/

namespace Latchkey.Daemon

/-- What keeps the daemon from starting. -/
inductive StartFault
  | settings (fault : LoadFault)
  | connection (fault : Database.PoolFault)
  /-- The database did not answer when it was asked whether it is well. -/
  | noHealth (fault : Database.PoolFault)
  /-- The database is not well. -/
  | badHealth
  | schema (fault : Database.PoolFault)
  | tasks (fault : KeyTaskFault)
deriving DecidableEq, Repr

namespace StartFault

/-- The wording of a fault. A clock that cannot be set breaks the daemon off without a word. -/
def message? : StartFault → Option String
  | .settings _ => some "failed to load configuration"
  | .connection _ => some "failed to connect to database"
  | .noHealth _ => some "database health check failed"
  | .badHealth => some "database health check returned an unexpected result"
  | .schema _ => some "failed to apply database migrations"
  | .tasks (.refused cause) => some cause.message
  | .tasks .noClock => none

/-- The line that reports a fault. -/
def report? (fault : StartFault) : Option String :=
  fault.message?.map ("Error: " ++ ·)

/-- The code that a process ends with that does not start. -/
def exitCode : StartFault → Nat
  | .tasks .noClock => 101
  | _ => 1

end StartFault

/-- Makes the database ready. -/
def prepare : Database.Operation StartFault Unit := do
  let isWell ← Database.Operation.failingAs .noHealth Database.health
  if isWell then Database.Operation.failingAs .schema Database.updateSchema
  else Database.Operation.ofResult (.error .badHealth)

/-- The scheduler with the key tasks. -/
def schedule (settings : SchedulerSettings) : Except StartFault (Scheduler KeyChore) :=
  match Scheduler.empty.addKeyTasks id settings with
  | (.ok (), scheduler) => .ok scheduler
  | (.error fault, _) => .error (.tasks fault)

/-- Starts the daemon, given the settings as far as they could be loaded, the server that it reaches
    with them, and how operations are run there. -/
def start {π : Type} (loaded : Except LoadFault Settings)
    (server : DatabaseSettings → Except Database.Fault π)
    (run : Database.Operation StartFault Unit → π → Except StartFault Unit × π) :
    Except StartFault (Scheduler KeyChore × π) := do
  let settings ← loaded.mapError .settings
  let pool ← (Database.connect settings.database (server settings.database)).mapError .connection
  let (result, pool) := run prepare pool
  result
  let scheduler ← schedule settings.scheduler
  return (scheduler, pool)

end Latchkey.Daemon

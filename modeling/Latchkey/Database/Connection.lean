import Latchkey.Database.Address
import Latchkey.Database.Schema
import Latchkey.Settings.Sections

set_option autoImplicit false

/-! # Connections

The database is reached at an address through a pool of connections. A pool that was closed answers
nothing any more. -/

namespace Latchkey.Database

/-- What can go wrong with the pool itself. -/
inductive PoolFault
  /-- The address cannot be used. -/
  | configuration (fault : AddressFault)
  /-- The database does not answer as it should. -/
  | database (fault : Fault)
  /-- The schema cannot be brought up to date. -/
  | schema (fault : Schema.UpdateFault)
deriving DecidableEq, Repr

/-- The wording of a fault. -/
def PoolFault.message : PoolFault → String
  | .configuration fault => "Configuration error: Invalid database URL: " ++ fault.message
  | .database fault => "Database error: " ++ fault.message
  | .schema fault => "Migration error: " ++ fault.message

/-- Connects as the settings say, where `greeting` is how the server at the address answers. A pool
    that may hold no connection, or that has no time to wait for one, gets none. -/
def connect {π : Type} (settings : DatabaseSettings) (greeting : Except Fault π) :
    Except PoolFault π :=
  match Address.check settings.url with
  | .error fault => .error (.configuration fault)
  | .ok () =>
    if settings.maxConnections = 0 ∨ settings.connectTimeout = 0 then .error (.database .late)
    else greeting.mapError .database

/-- Whether the server answers a request for the number one with that number. -/
def health : Operation PoolFault Bool := do
  let number ← Operation.failingAs .database do
    let answer ← Operation.send .one
    Operation.ofResult answer.number?
  return number = 1

/-- Brings the schema up to date. -/
def updateSchema : Operation PoolFault Unit :=
  Operation.failingAs .schema Schema.update

/-- How many connections a pool has. -/
structure PoolStatistics where
  connections : Nat
  idle : Nat
  maxConnections : Nat
deriving DecidableEq, Repr

/-- Statistics in words. -/
def PoolStatistics.toText (s : PoolStatistics) : String :=
  s!"{s.connections}/{s.maxConnections} connections ({s.idle} idle)"

end Latchkey.Database

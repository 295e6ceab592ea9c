import Latchkey.Database.Answer
import Latchkey.Database.Statement
import Latchkey.Program

set_option autoImplicit false

/-! # Operations on a database

An operation sends one statement after the other. A statement that fails fails the operation, with a
text that says what was being attempted; within a transaction the changes are then rolled back
first. -/

namespace Latchkey.Database

/-- A version of the schema that was applied, or begun to be applied, before. -/
structure AppliedVersion where
  version : Int
  /-- Whether the script was the one that is known now. -/
  isSame : Bool
  isComplete : Bool
deriving DecidableEq, Repr

/-- What is asked of the database: statements, and the book that is kept of schema versions. -/
inductive Request
  | send (statement : Statement)
  /-- The versions in the book, lowest first. -/
  | versions
  /-- Notes that a version is being applied. -/
  | noteBegun (version : Int)
  /-- Notes that a version is applied. -/
  | noteComplete (version : Int)

/-- What is answered. -/
abbrev Request.Answer : Request → Type
  | .send _ => Except Fault Database.Answer
  | .versions => Except Fault (List AppliedVersion)
  | .noteBegun _ => Unit
  | .noteComplete _ => Unit

/-- An operation that may fail with an `ε`. -/
abbrev Operation (ε α : Type) := ExceptT ε (Program Request Request.Answer) α

namespace Operation

variable {ε α : Type}

/-- Asks for one thing. -/
def ask (r : Request) : Program Request Request.Answer r.Answer :=
  Program.request r

/-- Sends a statement. -/
def send (statement : Statement) : Operation Fault Database.Answer :=
  .mk (ask (.send statement))

/-- Names the failure of an operation in other terms. -/
def failingAs {ε' : Type} (f : ε → ε') (operation : Operation ε α) : Operation ε' α :=
  .mk (operation.run.bind fun result => .done (result.mapError f))

/-- Sends a statement in order to do what `attempt` says. -/
def attempt (attempt : String) (statement : Statement) : Operation Error Database.Answer :=
  failingAs (fun fault => .storage ("Failed to " ++ attempt ++ ": " ++ fault.message))
    (send statement)

/-- Rolls the open transaction back if the operation fails. -/
def orRollback (operation : Operation ε α) : Operation ε α :=
  .mk (operation.run.bind fun
    | .ok a => .done (.ok a)
    | .error e => (ask (.send .rollback)).bind fun _ => .done (.error e))

/-- The operation with a given result. -/
def ofResult (result : Except ε α) : Operation ε α :=
  .mk (.done result)

end Operation

end Latchkey.Database

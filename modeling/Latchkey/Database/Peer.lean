import Latchkey.Database.Connection

set_option autoImplicit false

/-! # A scripted peer

A peer that stands in for a database: it executes nothing, but keeps a list of the statements that
it was sent and answers them from a script. Once the script is used up it finds no rows, and changes
one row with every other statement. The book of schema versions is kept apart from the script. -/

namespace Latchkey.Database

/-- A peer and the pool that is connected to it. -/
structure Peer where
  /-- The answers that are still to be given. -/
  script : List (Except Fault Answer) := []
  book : List AppliedVersion := []
  /-- The statements so far, the latest first. -/
  sent : List Statement := []
  isClosed : Bool := false

namespace Peer

/-- What a statement is answered when the script is used up. -/
def standardAnswer (statement : Statement) : Except Fault Answer :=
  .ok (if statement.isQuery then .rows [] else .affected 1)

/-- Takes a statement and answers it. -/
def receive (statement : Statement) (p : Peer) : Except Fault Answer × Peer :=
  let p' := { p with sent := statement :: p.sent, script := p.script.tail }
  (p.script.headD (standardAnswer statement), p')

/-- Notes in the book that a version is complete. -/
def complete (version : Int) (book : List AppliedVersion) : List AppliedVersion :=
  book.map fun row => if row.version = version then { row with isComplete := true } else row

/-- The answer to a request. A closed pool passes nothing on. -/
def answer : Program.Handler Request Request.Answer Peer
  | .send statement, p => if p.isClosed then (.error .closed, p) else p.receive statement
  | .versions, p =>
    if p.isClosed then (.error .closed, p)
    else (.ok (p.book.mergeSort fun a b => a.version ≤ b.version), p)
  | .noteBegun version, p => ((), { p with book := p.book ++ [⟨version, true, false⟩] })
  | .noteComplete version, p => ((), { p with book := complete version p.book })

/-- Runs an operation. -/
def run {ε α : Type} (operation : Operation ε α) (p : Peer) : Except ε α × Peer :=
  Program.run answer operation.run p

/-- Closes the pool. -/
def close (p : Peer) : Peer :=
  { p with isClosed := true }

/-- The connections between operations: a single one, until the pool is closed. -/
def statistics (maxConnections : Nat) (p : Peer) : PoolStatistics :=
  if p.isClosed then ⟨0, 0, maxConnections⟩ else ⟨1, 1, maxConnections⟩

end Peer

end Latchkey.Database

import Latchkey.Database.TokenLedger

set_option autoImplicit false

/-! # The ledger in the database, statement by statement

Each operation on the ledger in the database is written as the statements that it sends, with what
it does if they fail and what it makes of their answers. -/

namespace Latchkey.Database

/-! ## One statement -/

section Sending

variable {α : Type}

/-- Sends a statement, and goes on with the fault or the answer. -/
def sending (statement : Statement) (refused : Fault → Program Request Request.Answer α)
    (answered : Answer → Program Request Request.Answer α) : Program Request Request.Answer α :=
  .ask (.send statement) fun
    | .error fault => refused fault
    | .ok answer => answered answer

end Sending

namespace Operation

variable {α : Type}

/-- The failure of a statement that was sent in order to do what `purpose` says. -/
def refusal (purpose : String) (fault : Fault) : Error :=
  .storage ("Failed to " ++ purpose ++ ": " ++ fault.message)

/-- Fails because of such a statement. -/
def fail (purpose : String) (fault : Fault) : Program Request Request.Answer (Except Error α) :=
  .done (.error (refusal purpose fault))

/-- Rolls back, whatever is answered to that, and fails. -/
def abandon (purpose : String) (fault : Fault) :
    Program Request Request.Answer (Except Error α) :=
  .ask (.send .rollback) fun _ => fail purpose fault

theorem run_attempt_bind (purpose : String) (statement : Statement)
    (k : Answer → Operation Error α) :
    (attempt purpose statement >>= k).run
      = sending statement (fail purpose) fun answer => (k answer).run := by
  rw [ExceptT.run_bind]
  refine congrArg (Program.ask _) (funext fun answer => ?_)
  cases answer <;> rfl

/-- Within a transaction, a statement that fails is followed by a rollback. -/
theorem run_orRollback_bind (purpose : String) (statement : Statement)
    (k : Answer → Operation Error α) :
    (orRollback (attempt purpose statement) >>= k).run
      = sending statement (abandon purpose) fun answer => (k answer).run := by
  rw [ExceptT.run_bind]
  refine congrArg (Program.ask _) (funext fun answer => ?_)
  cases answer <;> rfl

end Operation

/-! ## Whole operations -/

namespace TokenLedger

open Operation (fail abandon)

theorem run_create (record : LedgerRecord) :
    (create record).run = sending (.ledger (.insert record)) (fail "save refresh token")
      fun _ => .done (.ok record) :=
  Operation.run_attempt_bind ..

theorem run_find (id : Uuid) :
    (find id).run = sending (.ledger (.byId id)) (fail "find refresh token")
      fun answer => .done (answer.found.head?.mapM ofRow) :=
  Operation.run_attempt_bind ..

theorem run_ofUser (userId : Uuid) :
    (ofUser userId).run
      = sending (.ledger (.byUser userId)) (fail "find refresh tokens by user")
        fun answer => .done (answer.found.mapM ofRow) :=
  Operation.run_attempt_bind ..

theorem run_invalidate (id : Uuid) :
    (invalidate id).run = sending (.ledger (.invalidate id)) (fail "invalidate refresh token")
      fun answer => .done (.ok (decide (0 < answer.count))) :=
  Operation.run_attempt_bind ..

theorem run_invalidateAll (userId : Uuid) :
    (invalidateAll userId).run
      = sending (.ledger (.invalidateUser userId)) (fail "invalidate user refresh tokens")
        fun answer => .done (.ok answer.count) :=
  Operation.run_attempt_bind ..

/-- A count that is no number is a failure of the same kind. -/
theorem run_countValid (userId : Uuid) :
    (countValid userId).run
      = sending (.ledger (.countValid userId)) (fail "count refresh tokens") fun answer =>
        match answer.number? with
        | .error fault => fail "count refresh tokens" fault
        | .ok number => .done (.ok number.toNat) := by
  refine congrArg (Program.ask _) (funext fun answer => ?_)
  rcases answer with fault | answer
  · rfl
  dsimp only [Program.bind, ExceptT.bindCont, Operation.ofResult]
  cases answer.number? <;> rfl

/-- What a rotation does when no record was invalidated: it looks whether there is one, and rolls
    back. -/
def reject (old : Uuid) : Program Request Request.Answer (Except Error LedgerRecord) :=
  sending (.ledger (.exists old)) (abandon "look up rotated refresh token") fun seen =>
    sending .rollback (abandon "roll back rotation") fun _ =>
      .done (.error (.verification (if seen.found.isEmpty then .unknownToken else .revoked)))

/-- What a rotation does when the old record was invalidated: it adds the successor, and commits. -/
def replace (successor : LedgerRecord) :
    Program Request Request.Answer (Except Error LedgerRecord) :=
  sending (.ledger (.insert successor)) (abandon "save successor refresh token") fun _ =>
    sending .commit (abandon "commit rotation") fun _ => .done (.ok successor)

theorem run_rotate (old : Uuid) (successor : LedgerRecord) :
    (rotate old successor).run = sending .begin (fail "begin rotation") fun _ =>
      sending (.ledger (.invalidate old)) (abandon "invalidate rotated refresh token")
        fun changed => if changed.count = 0 then reject old else replace successor := by
  rw [rotate, Operation.run_attempt_bind]
  refine congrArg (sending _ _) (funext fun _ => ?_)
  refine (Operation.run_orRollback_bind ..).trans
    (congrArg (sending _ _) (funext fun changed => ?_))
  split
  · refine (Operation.run_orRollback_bind ..).trans
      (congrArg (sending _ _) (funext fun seen => ?_))
    exact Operation.run_orRollback_bind ..
  · refine (Operation.run_orRollback_bind ..).trans (congrArg (sending _ _) (funext fun _ => ?_))
    exact Operation.run_orRollback_bind ..

end TokenLedger

end Latchkey.Database

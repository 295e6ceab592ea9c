import Latchkey.Database.Operation

set_option autoImplicit false

/-! # The ledger in the database

A rotation is a transaction: the old record is invalidated on the condition that it is valid, so
that of two rotations of one record only one changes a row, and the successor is added only after
that. -/

namespace Latchkey.Database.TokenLedger

/-- The record that a row holds. -/
def ofRow (row : Row) : Except Error LedgerRecord := do
  let idText ← row.text "id"
  let userText ← row.text "user_id"
  let id ← Row.identifier "token" idText
  let userId ← Row.identifier "user" userText
  let isValid ← row.truth "is_valid"
  let expiresAt ← row.time "expire_at"
  let createdAt ← row.time "created_at"
  return ⟨id, userId, isValid, expiresAt, createdAt⟩

/-- Sends a statement about the ledger in order to do what `attempt` says. -/
def attempt (attempt : String) (statement : LedgerStatement) : Operation Error Answer :=
  Operation.attempt attempt (.ledger statement)

/-- Adds a record. -/
def create (record : LedgerRecord) : Operation Error LedgerRecord := do
  let _ ← attempt "save refresh token" (.insert record)
  return record

/-- The record of an identifier. -/
def find (id : Uuid) : Operation Error (Option LedgerRecord) := do
  let answer ← attempt "find refresh token" (.byId id)
  Operation.ofResult (answer.found.head?.mapM ofRow)

/-- The records of a user, newest first. -/
def ofUser (userId : Uuid) : Operation Error (List LedgerRecord) := do
  let answer ← attempt "find refresh tokens by user" (.byUser userId)
  Operation.ofResult (answer.found.mapM ofRow)

/-- Invalidates a record; answers whether it was valid. -/
def invalidate (id : Uuid) : Operation Error Bool := do
  let answer ← attempt "invalidate refresh token" (.invalidate id)
  return 0 < answer.count

/-- Invalidates the old record and adds its successor, or neither. Nothing is open any more when
    this ends, except that a rollback or commit that failed is followed by one more rollback. -/
def rotate (old : Uuid) (successor : LedgerRecord) : Operation Error LedgerRecord := do
  let _ ← Operation.attempt "begin rotation" .begin
  let changed ← Operation.orRollback (attempt "invalidate rotated refresh token" (.invalidate old))
  if changed.count = 0 then
    let seen ← Operation.orRollback (attempt "look up rotated refresh token" (.exists old))
    let _ ← Operation.orRollback (Operation.attempt "roll back rotation" .rollback)
    throw (.verification (if seen.found.isEmpty then .unknownToken else .revoked))
  else
    let _ ← Operation.orRollback (attempt "save successor refresh token" (.insert successor))
    let _ ← Operation.orRollback (Operation.attempt "commit rotation" .commit)
    return successor

/-- Invalidates a user's records; answers how many were valid. -/
def invalidateAll (userId : Uuid) : Operation Error Nat := do
  let answer ← attempt "invalidate user refresh tokens" (.invalidateUser userId)
  return answer.count

/-- The number of a user's valid records; a number below zero counts as none. -/
def countValid (userId : Uuid) : Operation Error Nat := do
  let number ← Operation.failingAs
    (fun fault => .storage ("Failed to count refresh tokens: " ++ fault.message)) do
      let answer ← Operation.send (.ledger (.countValid userId))
      Operation.ofResult answer.number?
  return number.toNat

end Latchkey.Database.TokenLedger

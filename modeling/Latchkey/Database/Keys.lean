import Latchkey.Database.Operation

set_option autoImplicit false

/-! # Keys in the database

The two tables of keys are used in the same way: a key is added, retired, looked up, or the newest
keys in service are listed. -/

namespace Latchkey.Database.Keys

variable {μ : Type}

/-- A table of keys together with the statements about it. -/
structure Access (μ : Type) where
  table : KeyTable μ
  statement : KeyStatement μ → Statement

/-- Signing keys. -/
def signing : Access SigningMaterial := ⟨.signing, .signing⟩

/-- Encryption key pairs. -/
def encryption : Access EncryptionMaterial := ⟨.encryption, .encryption⟩

/-- Sends a statement in order to do something with keys. -/
def Access.attempt (a : Access μ) (attempt : String) (statement : KeyStatement μ) :
    Operation Error Answer :=
  Operation.attempt attempt (a.statement statement)

/-- The key that a row holds. -/
def ofRow (table : KeyTable μ) (row : Row) : Except Error (StoredKey μ) := do
  let id ← Row.identifier "key" (← row.text "id")
  let texts ← table.materialColumns.mapM row.text
  let createdAt ← row.time "created_at"
  let deletedAt ← row.time? "deleted_at"
  return ⟨id, table.ofTexts texts, createdAt, deletedAt⟩

/-- Adds a key. -/
def create (a : Access μ) (key : StoredKey μ) : Operation Error (StoredKey μ) := do
  let _ ← a.attempt ("save " ++ a.table.noun) (.insert key)
  return key

/-- Retires a key at an instant; answers whether it was in service. -/
def retire (a : Access μ) (now : Instant) (id : Uuid) : Operation Error Bool := do
  let answer ← a.attempt ("retire " ++ a.table.noun) (.retire id now)
  return 0 < answer.count

/-- The newest keys in service. -/
def recentUsable (a : Access μ) (limit : Nat) : Operation Error (List (StoredKey μ)) := do
  let answer ← a.attempt ("list " ++ a.table.noun ++ "s") (.newest limit)
  Operation.ofResult (answer.found.mapM (ofRow a.table))

/-- The key of an identifier. -/
def read (a : Access μ) (id : Uuid) : Operation Error (Option (StoredKey μ)) := do
  let answer ← a.attempt ("read " ++ a.table.noun) (.byId id)
  Operation.ofResult (answer.found.head?.mapM (ofRow a.table))

end Latchkey.Database.Keys

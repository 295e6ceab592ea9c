import Latchkey.Database.Operation

set_option autoImplicit false

/-! # Schema versions

The schema is brought up to date by running, in order, the scripts of the versions that the
database's book does not list. A book that does not fit the known versions is left alone. -/

namespace Latchkey.Database.Schema

/-- A version of the schema and the script that leads to it. -/
structure Version where
  number : Int
  script : String

/-- The tables for keys and token records. -/
def firstScript : String :=
  "\n".intercalate [
    "-- Signing key pool (Ed25519 JWKs). Rows are soft-deleted, never removed.",
    "CREATE TABLE IF NOT EXISTS signing_keys (",
    "    id CHAR(36) NOT NULL PRIMARY KEY COMMENT 'UUID v7, time ordered',",
    "    private_key TEXT NOT NULL COMMENT 'PKCS#8 DER, base64url',",
    "    public_key VARCHAR(64) NOT NULL COMMENT 'raw public key, base64url',",
    "    created_at DATETIME(6) NOT NULL,",
    "    deleted_at DATETIME(6) NULL,",
    "    INDEX idx_signing_keys_deleted_at (deleted_at)",
    ") ENGINE=InnoDB DEFAULT CHARSET=utf8mb4 COLLATE=utf8mb4_unicode_ci;",
    "",
    "-- RSA encryption key pairs. Key material is immutable.",
    "CREATE TABLE IF NOT EXISTS encryption_key_pairs (",
    "    id CHAR(36) NOT NULL PRIMARY KEY COMMENT 'UUID v7, time ordered',",
    "    public_key TEXT NOT NULL COMMENT 'SPKI PEM',",
    "    private_key TEXT NOT NULL COMMENT 'PKCS#8 PEM',",
    "    exponent VARCHAR(16) NOT NULL COMMENT 'base64url big-endian',",
    "    modulus TEXT NOT NULL COMMENT 'base64url big-endian',",
    "    created_at DATETIME(6) NOT NULL,",
    "    deleted_at DATETIME(6) NULL,",
    "    INDEX idx_encryption_key_pairs_deleted_at (deleted_at)",
    ") ENGINE=InnoDB DEFAULT CHARSET=utf8mb4 COLLATE=utf8mb4_unicode_ci;",
    "",
    "-- Refresh token ledger. is_valid only ever goes from TRUE to FALSE.",
    "CREATE TABLE IF NOT EXISTS refresh_tokens (",
    "    id CHAR(36) NOT NULL PRIMARY KEY COMMENT 'token jti',",
    "    user_id CHAR(36) NOT NULL,",
    "    is_valid BOOLEAN NOT NULL DEFAULT TRUE,",
    "    expire_at DATETIME(6) NOT NULL,",
    "    created_at DATETIME(6) NOT NULL,",
    "    INDEX idx_refresh_tokens_user_id (user_id),",
    "    INDEX idx_refresh_tokens_expire_at (expire_at)",
    ") ENGINE=InnoDB DEFAULT CHARSET=utf8mb4 COLLATE=utf8mb4_unicode_ci;"]

/-- The known versions, in order. -/
def known : List Version := [⟨1, firstScript⟩]

/-- Why the schema could not be brought up to date. -/
inductive UpdateFault
  /-- A version was begun and not completed. -/
  | incomplete (version : Int)
  /-- A version in the book is not known. -/
  | unknown (version : Int)
  /-- A version in the book had another script. -/
  | modified (version : Int)
  /-- The database did not answer as it should. -/
  | executing (fault : Fault)
deriving DecidableEq, Repr

/-- The wording of a fault. -/
def UpdateFault.message : UpdateFault → String
  | .incomplete v =>
    s!"migration {v} is partially applied; fix and remove row from \x60_sqlx_migrations\x60 table"
  | .unknown v => s!"migration {v} was previously applied but is missing in the resolved migrations"
  | .modified v => s!"migration {v} was previously applied but has been modified"
  | .executing fault => "while executing migrations: " ++ fault.message

/-- What is wrong with the book as a whole, if anything. -/
def bookFault? (book : List AppliedVersion) : Option UpdateFault :=
  match book.find? fun row => !row.isComplete with
  | some row => some (.incomplete row.version)
  | none =>
    (book.find? fun row => !known.any fun v => v.number = row.version).map fun row =>
      .unknown row.version

/-- Asks the database while the schema is brought up to date. -/
def executing {α : Type} (operation : Operation Fault α) : Operation UpdateFault α :=
  Operation.failingAs .executing operation

/-- Runs the script of a version in a transaction, and keeps the book. -/
def apply (v : Version) : Operation UpdateFault Unit := do
  let _ ← executing (Operation.send .begin)
  let _ ← Operation.ask (.noteBegun v.number)
  let _ ← executing (Operation.orRollback (Operation.send (.script v.script)))
  let _ ← Operation.ask (.noteComplete v.number)
  let _ ← executing (Operation.orRollback (Operation.send .commit))

/-- Applies the known versions that the book does not list. -/
def applyMissing (book : List AppliedVersion) : List Version → Operation UpdateFault Unit
  | [] => return
  | v :: rest => do
    match book.find? fun row => row.version = v.number with
    | none => apply v
    | some row => if row.isSame then pure () else throw (.modified v.number)
    applyMissing book rest

/-- Brings the schema up to date. -/
def update : Operation UpdateFault Unit := do
  let book ← executing (.mk (Operation.ask .versions))
  match bookFault? book with
  | some fault => throw fault
  | none => applyMissing book known

end Latchkey.Database.Schema

import Latchkey.Key.Encryption
import Latchkey.Key.Signing
import Latchkey.Ledger.Record

set_option autoImplicit false

/-! # Statements

The statements that are sent to the database: what each of them means, its text, and the values that
take the places of the question marks in it. Times are sent in whole microseconds. -/

namespace Latchkey.Database

/-- A value that is sent along with a statement. -/
inductive Value
  | text (text : String)
  | integer (number : Int)
  | time (time : Instant)
deriving DecidableEq, Repr

namespace Value

/-- An identifier. -/
def uuid (id : Uuid) : Value :=
  .text id.toText

/-- A truth value. -/
def bool (b : Bool) : Value :=
  .integer (if b then 1 else 0)

/-- An instant, cut to microseconds. -/
def instant (i : Instant) : Value :=
  .time i.toMicros

end Value

/-! ## Keys -/

/-- How keys with material of type `μ` are laid out in a table. -/
structure KeyTable (μ : Type) where
  name : String
  /-- What a key is called. -/
  noun : String
  /-- The list of all columns, as it stands in an insertion. -/
  columns : String
  /-- The columns of the material. -/
  materialColumns : List String
  /-- The material as the texts of its columns. -/
  texts : μ → List String
  /-- The material of the texts of its columns. -/
  ofTexts : List String → μ

namespace KeyTable

/-- The table of signing keys. -/
def signing : KeyTable SigningMaterial where
  name := "signing_keys"
  noun := "signing key"
  columns := "(id, private_key, public_key, created_at, deleted_at)"
  materialColumns := ["private_key", "public_key"]
  texts m := [m.privateKey, m.publicKey]
  ofTexts texts := ⟨texts.getD 0 "", texts.getD 1 ""⟩

/-- The table of encryption key pairs. -/
def encryption : KeyTable EncryptionMaterial where
  name := "encryption_key_pairs"
  noun := "encryption key pair"
  columns := "(\n id, public_key, private_key, exponent, modulus, created_at, deleted_at\n)"
  materialColumns := ["public_key", "private_key", "exponent", "modulus"]
  texts m := [m.publicKey, m.privateKey, m.exponent, m.modulus]
  ofTexts texts := ⟨texts.getD 0 "", texts.getD 1 "", texts.getD 2 "", texts.getD 3 ""⟩

end KeyTable

/-- A statement about a table of keys. -/
inductive KeyStatement (μ : Type)
  /-- Adds a key. -/
  | insert (key : StoredKey μ)
  /-- Sets the time of retirement of a key in service. -/
  | retire (id : Uuid) (time : Instant)
  /-- The newest keys in service. -/
  | newest (limit : Nat)
  /-- The key of an identifier. -/
  | byId (id : Uuid)

namespace KeyStatement

variable {μ : Type}

/-- The largest number of rows that can be asked for. -/
def maxLimit : Nat := Nat.pow 2 63 - 1

/-- The part of a query that names what is read. -/
def selection (table : KeyTable μ) : String :=
  "SELECT " ++ ", ".intercalate (["id"] ++ table.materialColumns ++ ["created_at", "deleted_at"])
    ++ " FROM " ++ table.name

/-- The text of a statement. -/
def text (table : KeyTable μ) : KeyStatement μ → String
  | .insert _ =>
    let places := List.replicate (table.materialColumns.length + 2) "?" ++ ["NULL"]
    let places := ", ".intercalate places
    "INSERT INTO " ++ table.name ++ " " ++ table.columns ++ " VALUES (" ++ places ++ ")"
  | .retire _ _ =>
    "UPDATE " ++ table.name ++ " SET deleted_at = ? WHERE id = ? AND deleted_at IS NULL"
  | .newest _ => selection table ++ " WHERE deleted_at IS NULL ORDER BY id DESC LIMIT ?"
  | .byId _ => selection table ++ " WHERE id = ? LIMIT 1"

/-- The values of a statement. -/
def values (table : KeyTable μ) : KeyStatement μ → List Value
  | .insert key =>
    [.uuid key.id] ++ (table.texts key.material).map .text ++ [.instant key.createdAt]
  | .retire id time => [.instant time, .uuid id]
  | .newest limit => [.integer (min limit maxLimit : Nat)]
  | .byId id => [.uuid id]

/-- Whether a statement asks for rows. -/
def isQuery : KeyStatement μ → Bool
  | .newest _ => true
  | .byId _ => true
  | _ => false

end KeyStatement

/-! ## Ledger -/

/-- A statement about the table of token records. -/
inductive LedgerStatement
  /-- Adds a record. -/
  | insert (record : LedgerRecord)
  /-- The record of an identifier. -/
  | byId (id : Uuid)
  /-- The records of a user, newest first. -/
  | byUser (userId : Uuid)
  /-- Marks a valid record as invalid. -/
  | invalidate (id : Uuid)
  /-- A row if there is a record of an identifier. -/
  | exists (id : Uuid)
  /-- Marks all valid records of a user as invalid. -/
  | invalidateUser (userId : Uuid)
  /-- The number of valid records of a user. -/
  | countValid (userId : Uuid)

namespace LedgerStatement

/-- The columns of the table. -/
def columns : String := "id, user_id, is_valid, expire_at, created_at"

/-- The part of a query that names what is read. -/
def selection : String :=
  "SELECT " ++ columns ++ " FROM refresh_tokens"

/-- The text of a statement. -/
def text : LedgerStatement → String
  | .insert _ => "INSERT INTO refresh_tokens (" ++ columns ++ ") VALUES (?, ?, ?, ?, ?)"
  | .byId _ => selection ++ " WHERE id = ? LIMIT 1"
  | .byUser _ => selection ++ " WHERE user_id = ? ORDER BY created_at DESC"
  | .invalidate _ =>
    "UPDATE refresh_tokens SET is_valid = FALSE WHERE id = ? AND is_valid = TRUE"
  | .exists _ => "SELECT 1 FROM refresh_tokens WHERE id = ? LIMIT 1"
  | .invalidateUser _ =>
    "UPDATE refresh_tokens SET is_valid = FALSE WHERE user_id = ? AND is_valid = TRUE"
  | .countValid _ => "SELECT COUNT(*) FROM refresh_tokens WHERE user_id = ? AND is_valid = TRUE"

/-- The values of a statement. -/
def values : LedgerStatement → List Value
  | .insert r =>
    [.uuid r.id, .uuid r.userId, .bool r.isValid, .instant r.expiresAt, .instant r.createdAt]
  | .byId id => [.uuid id]
  | .byUser userId => [.uuid userId]
  | .invalidate id => [.uuid id]
  | .exists id => [.uuid id]
  | .invalidateUser userId => [.uuid userId]
  | .countValid userId => [.uuid userId]

/-- Whether a statement asks for rows. -/
def isQuery : LedgerStatement → Bool
  | .byId _ => true
  | .byUser _ => true
  | .exists _ => true
  | .countValid _ => true
  | _ => false

end LedgerStatement

/-! ## All statements -/

/-- Any statement. -/
inductive Statement
  | begin
  | commit
  | rollback
  /-- Asks for the number one. -/
  | one
  /-- Runs a script of changes to the schema. -/
  | script (text : String)
  | signing (statement : KeyStatement SigningMaterial)
  | encryption (statement : KeyStatement EncryptionMaterial)
  | ledger (statement : LedgerStatement)

namespace Statement

/-- The text of a statement. -/
def text : Statement → String
  | .begin => "BEGIN"
  | .commit => "COMMIT"
  | .rollback => "ROLLBACK"
  | .one => "SELECT 1"
  | .script text => text
  | .signing s => s.text .signing
  | .encryption s => s.text .encryption
  | .ledger s => s.text

/-- The values of a statement. -/
def values : Statement → List Value
  | .signing s => s.values .signing
  | .encryption s => s.values .encryption
  | .ledger s => s.values
  | _ => []

/-- Whether a statement asks for rows. -/
def isQuery : Statement → Bool
  | .one => true
  | .signing s => s.isQuery
  | .encryption s => s.isQuery
  | .ledger s => s.isQuery
  | _ => false

end Statement

end Latchkey.Database

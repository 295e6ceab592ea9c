import Latchkey.Key.Encryption
import Latchkey.Key.Signing
import Latchkey.Ledger.Record
import Latchkey.Error
import Latchkey.Program

set_option autoImplicit false

/-! # Requests

What the operations of a session ask of the world: calls to the three stores, the lock that keeps
refills apart, and fresh key material. Every store call may fail. -/

namespace Latchkey

/-- A call to a store of keys. -/
inductive KeyCall (μ : Type)
  /-- Stores new material under a fresh identifier. -/
  | create (material : μ)
  /-- Retires a key; answers whether it was usable. -/
  | retire (id : Uuid)
  /-- The newest usable keys. -/
  | recentUsable (limit : Nat)
  /-- The key of an identifier. -/
  | read (id : Uuid)

/-- What a store of keys answers. -/
abbrev KeyCall.Answer {μ : Type} : KeyCall μ → Type
  | .create _ => StoredKey μ
  | .retire _ => Bool
  | .recentUsable _ => List (StoredKey μ)
  | .read _ => Option (StoredKey μ)

/-- A call to the ledger. -/
inductive LedgerCall
  /-- Adds a record. -/
  | create (record : LedgerRecord)
  /-- The record of an identifier. -/
  | find (id : Uuid)
  /-- The records of a user, newest first. -/
  | ofUser (userId : Uuid)
  /-- Invalidates a record; answers whether it was valid. -/
  | invalidate (id : Uuid)
  /-- Invalidates a record and adds its successor, or neither. -/
  | rotate (old : Uuid) (successor : LedgerRecord)
  /-- Invalidates a user's records; answers how many were valid. -/
  | invalidateAll (userId : Uuid)

/-- What the ledger answers. -/
abbrev LedgerCall.Answer : LedgerCall → Type
  | .create _ => LedgerRecord
  | .find _ => Option LedgerRecord
  | .ofUser _ => List LedgerRecord
  | .invalidate _ => Bool
  | .rotate _ _ => LedgerRecord
  | .invalidateAll _ => Nat

/-- Anything that an operation asks for. -/
inductive Request
  | signing (call : KeyCall SigningMaterial)
  | encryption (call : KeyCall EncryptionMaterial)
  | ledger (call : LedgerCall)
  /-- Takes the lock that only one refill holds at a time. -/
  | lockRefill
  /-- Gives the lock back. -/
  | unlockRefill
  /-- Draws the 32-byte seed of a signing key. -/
  | drawSeed
  /-- Draws an encryption key pair with a modulus of so many bits. -/
  | drawKeyPair (bits : Nat)

/-- What is answered. -/
abbrev Request.Answer : Request → Type
  | .signing call => Except Error call.Answer
  | .encryption call => Except Error call.Answer
  | .ledger call => Except Error call.Answer
  | .lockRefill => Unit
  | .unlockRefill => Unit
  | .drawSeed => Bytes
  | .drawKeyPair _ => Except Error EncryptionMaterial

/-- An operation that may fail. -/
abbrev Operation (α : Type) := ExceptT Error (Program Request Request.Answer) α

namespace Operation

/-- Asks for one thing. -/
def ask (r : Request) : Program Request Request.Answer r.Answer :=
  Program.request r

/-- Asks the signing key store. -/
def signing (call : KeyCall SigningMaterial) : Operation call.Answer :=
  .mk (ask (.signing call))

/-- Asks the encryption key store. -/
def encryption (call : KeyCall EncryptionMaterial) : Operation call.Answer :=
  .mk (ask (.encryption call))

/-- Asks the ledger. -/
def ledger (call : LedgerCall) : Operation call.Answer :=
  .mk (ask (.ledger call))

/-- Draws the seed of a signing key. -/
def drawSeed : Operation Bytes :=
  .mk ((ask .drawSeed).bind fun seed => .done (.ok seed))

/-- Draws an encryption key pair. -/
def drawKeyPair (bits : Nat) : Operation EncryptionMaterial :=
  .mk (ask (.drawKeyPair bits))

/-- Holds the refill lock during an operation, however that ends. -/
def refilling {α : Type} (operation : Operation α) : Operation α :=
  .mk ((ask .lockRefill).bind fun _ =>
    operation.run.bind fun result =>
      (ask .unlockRefill).bind fun _ => .done result)

/-- Changing a stored encryption key, which is never allowed. -/
def updateEncryption (id : Uuid) : Operation EncryptionKey :=
  .mk (.done (.error (.unsupported ("update encryption key pair " ++ id.toText))))

/-- The operation with a given result. -/
def ofResult {α : Type} (result : Except Error α) : Operation α :=
  .mk (.done result)

end Operation

end Latchkey

import Latchkey.Session.Request
import Latchkey.Settings.Sections

set_option autoImplicit false

/-! # Key maintenance

A pass retires keys that have grown too old and refills both pools. Its four steps run one after the
other, and a step that fails does not stop the later ones. Refills hold a lock, so that two of them
cannot both find the same keys missing. -/

namespace Latchkey

/-- What a pass did, and which steps failed. -/
structure MaintenanceReport where
  signingRetired : Nat := 0
  signingCreated : Nat := 0
  encryptionRetired : Nat := 0
  encryptionCreated : Nat := 0
  errors : List String := []
deriving DecidableEq, Repr

namespace MaintenanceReport

/-- Whether no step failed. -/
def isSuccess (report : MaintenanceReport) : Bool :=
  report.errors.isEmpty

/-- The report of a pass without failures, or one failure that names all of them. -/
def toResult (report : MaintenanceReport) : Except Error MaintenanceReport :=
  if report.isSuccess then .ok report else .error (.internal ("; ".intercalate report.errors))

end MaintenanceReport

namespace Maintenance

/-- How many keys a pass looks at. -/
def scanLimit : Nat := 10000

/-- The smallest modulus, in bits, of an encryption key. -/
def minModulusBits : Nat := 1024

/-- The time before which a key must have been created to count as too old. -/
def cutoff (now : Instant) (maxAgeDays : Int) : Except Error Instant :=
  match (Span.ofDays? maxAgeDays).bind now.sub? with
  | some time => .ok time
  | none => .error (.internal s!"key age of {maxAgeDays} days is out of range")

/-- Retires the given keys one after the other and counts those that were still usable. -/
def retireEach {μ : Type} (retire : Uuid → Operation Bool) :
    List (StoredKey μ) → Operation Nat
  | [] => return 0
  | key :: rest => do
    let retired ← retire key.id
    let more ← retireEach retire rest
    return (if retired then more + 1 else more)

/-- Retires the signing keys that are too old. -/
def retireSigning (s : RotationSettings) (now : Instant) : Operation Nat := do
  let limit ← Operation.ofResult (cutoff now s.maxKeyAgeDays)
  let keys ← Operation.signing (.recentUsable scanLimit)
  retireEach (fun id => Operation.signing (.retire id))
    (keys.filter fun key => key.createdAt < limit)

/-- Retires the encryption keys that are too old. -/
def retireEncryption (s : RotationSettings) (now : Instant) : Operation Nat := do
  let limit ← Operation.ofResult (cutoff now s.maxEncryptionKeyAgeDays)
  let keys ← Operation.encryption (.recentUsable scanLimit)
  retireEach (fun id => Operation.encryption (.retire id))
    (keys.filter fun key => key.createdAt < limit)

/-- Creates a signing key from a fresh seed. -/
def newSigningKey : Operation SigningKey := do
  let seed ← Operation.drawSeed
  Operation.signing (.create (.ofSeed seed))

/-- Creates so many signing keys. -/
def createSigning : Nat → Operation Unit
  | 0 => return
  | missing + 1 => do
    let _ ← newSigningKey
    createSigning missing

/-- Creates signing keys until enough are usable; answers how many that took. -/
def ensureSigning (s : RotationSettings) : Operation Nat :=
  Operation.refilling do
    let usable ← Operation.signing (.recentUsable s.minUsableKeys)
    let missing := s.minUsableKeys - usable.length
    createSigning missing
    return missing

/-- A new encryption key pair, unless the modulus would be too small. -/
def newKeyPair (bits : Nat) : Operation EncryptionMaterial :=
  if bits < minModulusBits then
    throw (.keyGeneration s!"RSA key size {bits} is below {minModulusBits}")
  else Operation.drawKeyPair bits

/-- Creates an encryption key if none is usable; answers whether it did. -/
def ensureEncryption (s : RotationSettings) : Operation Bool :=
  Operation.refilling do
    let usable ← Operation.encryption (.recentUsable 1)
    if usable.isEmpty then
      let material ← newKeyPair s.encryptionKeyBits
      let _ ← Operation.encryption (.create material)
      return true
    else return false

/-- A step of a pass: its count, or the line that reports its failure. -/
def step (title : String) (operation : Operation Nat) :
    Program Request Request.Answer (Nat × List String) :=
  operation.run.bind fun
    | .ok count => .done (count, [])
    | .error e => .done (0, [title ++ " error: " ++ e.message])

/-- Runs a pass as of an instant. -/
def pass (s : RotationSettings) (now : Instant) :
    Program Request Request.Answer MaintenanceReport := do
  let (signingRetired, e1) ← step "Signing key retirement" (retireSigning s now)
  let (signingCreated, e2) ← step "Signing key creation" (ensureSigning s)
  let (encryptionRetired, e3) ← step "Encryption key retirement" (retireEncryption s now)
  let (encryptionCreated, e4) ← step "Encryption key creation"
    ((ensureEncryption s).map fun created => if created then 1 else 0)
  let errors := e1 ++ e2 ++ e3 ++ e4
  return ⟨signingRetired, signingCreated, encryptionRetired, encryptionCreated, errors⟩

end Maintenance

end Latchkey

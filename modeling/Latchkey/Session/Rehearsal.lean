import Latchkey.Rsa.KeyPair
import Latchkey.Session.World

set_option autoImplicit false

/-! # Rehearsals

A rehearsal runs operations over a world with planned disturbances: each kind of store call may,
after some normal calls, go wrong a number of times. What is drawn follows from a counter, so a
rehearsal always goes the same way; identifiers of new keys come after all others, in the order of
creation. -/

namespace Latchkey

/-- The kinds of store calls. -/
inductive CallKind
  | signingCreate
  | signingRetire
  | signingList
  | signingRead
  | encryptionCreate
  | encryptionRetire
  | encryptionList
  | encryptionRead
  | ledgerCreate
  | ledgerFind
  | ledgerOfUser
  | ledgerInvalidate
  | ledgerRotate
  | ledgerInvalidateAll
deriving DecidableEq, Repr

/-- The kind of a request that is a store call. -/
def Request.kind? : Request → Option CallKind
  | .signing (.create _) => some .signingCreate
  | .signing (.retire _) => some .signingRetire
  | .signing (.recentUsable _) => some .signingList
  | .signing (.read _) => some .signingRead
  | .encryption (.create _) => some .encryptionCreate
  | .encryption (.retire _) => some .encryptionRetire
  | .encryption (.recentUsable _) => some .encryptionList
  | .encryption (.read _) => some .encryptionRead
  | .ledger (.create _) => some .ledgerCreate
  | .ledger (.find _) => some .ledgerFind
  | .ledger (.ofUser _) => some .ledgerOfUser
  | .ledger (.invalidate _) => some .ledgerInvalidate
  | .ledger (.rotate _ _) => some .ledgerRotate
  | .ledger (.invalidateAll _) => some .ledgerInvalidateAll
  | _ => none

/-- A planned disturbance of one kind of call. -/
structure PlannedFault where
  kind : CallKind
  disturbance : World.Disturbance
  /-- Calls that still go well. -/
  skip : Nat
  /-- Calls that still go wrong; without a number all do. -/
  times : Option Nat

/-- A world with a plan of what goes wrong, and a counter of what was drawn. -/
structure Rehearsal where
  world : World
  plan : List PlannedFault := []
  drawn : Nat := 0

namespace Rehearsal

/-- A digest of the counter, from which everything else is drawn. -/
def drawnBytes (count : Nat) : Bytes :=
  Sha256.digest (Bytes.ofNatBE 8 count)

/-- The time part of new key identifiers, the latest there is. -/
def lastMillis : Nat := Nat.pow 2 48 - 1

/-- What is drawn at a count. -/
def drawAt (count : Nat) : Draw where
  keyId := .timeOrdered lastMillis count 0
  seed := drawnBytes count
  keyPair bits :=
    match EncryptionMaterial.ofSeed? (drawnBytes count) bits with
    | some material => .ok material
    | none => .error (.keyGeneration "failed to generate RSA private key: too few candidates")

/-- Plans a disturbance in place of an earlier one of the same kind. -/
def withFault (r : Rehearsal) (fault : PlannedFault) : Rehearsal :=
  { r with plan := fault :: r.plan.filter fun f => f.kind ≠ fault.kind }

/-- Whether a planned fault strikes now, and what is left of it. -/
def PlannedFault.strike (f : PlannedFault) : Option World.Disturbance × PlannedFault :=
  if 0 < f.skip then (none, { f with skip := f.skip - 1 })
  else
    match f.times with
    | none => (some f.disturbance, f)
    | some 0 => (none, f)
    | some (n + 1) => (some f.disturbance, { f with times := some n })

/-- The disturbance that strikes a kind of call, and the plan that is left. -/
def strike (kind : CallKind) : List PlannedFault → Option World.Disturbance × List PlannedFault
  | [] => (none, [])
  | f :: rest =>
    if f.kind = kind then
      let (disturbance, f) := PlannedFault.strike f
      (disturbance, f :: rest)
    else
      let (disturbance, rest) := strike kind rest
      (disturbance, f :: rest)

/-- The answer to a request. -/
def answer : Program.Handler Request Request.Answer Rehearsal := fun request r =>
  let draw := drawAt r.drawn
  let (disturbance, plan) :=
    match request.kind? with
    | some kind => strike kind r.plan
    | none => (none, r.plan)
  let (a, world) :=
    match disturbance with
    | some disturbance => World.disturbed disturbance draw request r.world
    | none => World.answer draw request r.world
  (a, ⟨world, plan, r.drawn + 1⟩)

/-- Runs an operation. -/
def run {α : Type} (operation : Operation α) (r : Rehearsal) : Except Error α × Rehearsal :=
  Program.run answer (ExceptT.run operation) r

/-- Runs a program. -/
def runProgram {α : Type} (program : Program Request Request.Answer α) (r : Rehearsal) :
    α × Rehearsal :=
  Program.run answer program r

end Rehearsal

end Latchkey

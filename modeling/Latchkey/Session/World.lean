import Latchkey.Key.Pool
import Latchkey.Ledger.Store
import Latchkey.Session.Request

set_option autoImplicit false

/-! # The stores in memory

A world is a wall clock and the three stores. It answers each request as a whole, with key
identifiers and key material that are drawn outside. Answering can also be disturbed: the store then
reports a failure, or behaves as if another call had come first. -/

namespace Latchkey

/-- The wall clock and the stores. -/
structure World where
  clock : Instant
  signing : Pool SigningMaterial
  encryption : Pool EncryptionMaterial
  ledger : Ledger

/-- What a single request may need to be drawn. -/
structure Draw where
  keyId : Uuid
  seed : Bytes
  keyPair : Nat → Except Error EncryptionMaterial

/-! ## Single stores -/

/-- Adds a key to a pool, whose keys are called `noun`. -/
def Pool.add {μ : Type} (noun : String) (pool : Pool μ) (key : StoredKey μ) :
    Except Error (Pool μ) :=
  match pool.insert? key with
  | some pool => .ok pool
  | none => .error (.storage (noun ++ " " ++ key.id.toText ++ " already exists"))

/-- A pool's answer to a call. -/
def Pool.answer {μ : Type} (noun : String) (clock : Instant) (freshId : Uuid) (pool : Pool μ) :
    (call : KeyCall μ) → Except Error call.Answer × Pool μ
  | .create material =>
    let key : StoredKey μ := ⟨freshId, material, clock, none⟩
    match pool.add noun key with
    | .ok pool => (.ok key, pool)
    | .error e => (.error e, pool)
  | .retire id => (.ok (pool.hasUsable id), pool.retire id clock)
  | .recentUsable limit => (.ok (pool.recentUsable limit), pool)
  | .read id => (.ok (pool.read? id), pool)

/-- The ledger's answer to a call. -/
def Ledger.answer (ledger : Ledger) : (call : LedgerCall) → Except Error call.Answer × Ledger
  | .create record =>
    match ledger.create record with
    | .ok ledger => (.ok record, ledger)
    | .error e => (.error e, ledger)
  | .find id => (.ok (ledger.find? id), ledger)
  | .ofUser userId => (.ok (ledger.ofUser userId), ledger)
  | .invalidate id => (.ok (ledger.hasValid id), ledger.invalidate id)
  | .rotate old successor =>
    match ledger.rotate old successor with
    | .ok ledger => (.ok successor, ledger)
    | .error e => (.error e, ledger)
  | .invalidateAll userId => (.ok (ledger.validOf userId), ledger.invalidateAll userId)

namespace World

/-- A world with empty stores. -/
def empty (clock : Instant) : World :=
  ⟨clock, .empty, .empty, .empty⟩

/-- What a signing key is called. -/
def signingNoun : String := "signing key"

/-- What an encryption key is called. -/
def encryptionNoun : String := "encryption key pair"

/-- The world with one more signing key. -/
def insertSigning (key : SigningKey) (w : World) : Except Error World :=
  (w.signing.add signingNoun key).map fun pool => { w with signing := pool }

/-- The world with one more encryption key. -/
def insertEncryption (key : EncryptionKey) (w : World) : Except Error World :=
  (w.encryption.add encryptionNoun key).map fun pool => { w with encryption := pool }

/-- The world's answer to a request. -/
def answer (draw : Draw) : Program.Handler Request Request.Answer World
  | .signing call, w =>
    let (a, pool) := w.signing.answer signingNoun w.clock draw.keyId call
    (a, { w with signing := pool })
  | .encryption call, w =>
    let (a, pool) := w.encryption.answer encryptionNoun w.clock draw.keyId call
    (a, { w with encryption := pool })
  | .ledger call, w =>
    let (a, ledger) := w.ledger.answer call
    (a, { w with ledger := ledger })
  | .lockRefill, w => ((), w)
  | .unlockRefill, w => ((), w)
  | .drawSeed, w => (draw.seed, w)
  | .drawKeyPair bits, w => (draw.keyPair bits, w)

/-! ## Disturbed answers -/

/-- How a store call goes wrong. -/
inductive Disturbance
  /-- The store reports a failure and does nothing. -/
  | fails (message : String)
  /-- Somebody else's call comes first: a retirement or invalidation finds nothing left to do, and a
      rotation finds its record already invalid. -/
  | losesRace
deriving DecidableEq, Repr

/-- The world's answer to a request that is disturbed. Only store calls can be. -/
def disturbed (disturbance : Disturbance) (draw : Draw) :
    Program.Handler Request Request.Answer World
  | .signing call, w =>
    match disturbance, call with
    | .fails message, _ => (.error (.storage message), w)
    | .losesRace, .retire _ => (.ok false, w)
    | .losesRace, call => answer draw (.signing call) w
  | .encryption call, w =>
    match disturbance, call with
    | .fails message, _ => (.error (.storage message), w)
    | .losesRace, .retire _ => (.ok false, w)
    | .losesRace, call => answer draw (.encryption call) w
  | .ledger call, w =>
    match disturbance, call with
    | .fails message, _ => (.error (.storage message), w)
    | .losesRace, .invalidate _ => (.ok false, w)
    | .losesRace, .rotate old successor =>
      answer draw (.ledger (.rotate old successor)) { w with ledger := w.ledger.invalidate old }
    | .losesRace, call => answer draw (.ledger call) w
  | r, w => answer draw r w

end World

end Latchkey

import Latchkey.Bytes.Der
import Latchkey.Bytes.Pem
import Latchkey.Key.Encryption
import Latchkey.Rsa.Prime

set_option autoImplicit false

/-! # RSA key pairs

Generation of a key pair with a modulus of exactly the wanted size and the usual public exponent,
and its two armoured forms: the private key in its envelope, and the public key with its algorithm.
-/

namespace Latchkey

namespace Rsa

/-- The public exponent. -/
def publicExponent : Nat := 65537

/-- A key pair. -/
structure KeyPair where
  modulus : Nat
  exponent : Nat
  secret : Nat
  p : Nat
  q : Nat
deriving DecidableEq, Repr

/-! ## Generation -/

/-- The coefficient of `a` in the greatest common divisor of `a` and `b`, up to multiples of `b`. -/
def bezout : Nat → Nat → Nat → Int × Int
  | 0, _, _ => (1, 0)
  | fuel + 1, a, b =>
    if b = 0 then (1, 0)
    else
      let (x, y) := bezout fuel b (a % b)
      (y, x - (a / b : Nat) * y)

/-- The inverse of `a` modulo `m`, if they have no factor in common. -/
def inverseMod (a m : Nat) : Nat :=
  ((bezout (2 * m.log2 + 2) a m).1 % m).toNat

/-- How many candidates are tried for one prime. -/
def maxTries : Nat := 100000

/-- The key pair of a seed whose modulus has `bits` bits. With the two highest bits of both primes
    set, their product has as many bits as the primes together. -/
def generate? (seed : Bytes) (bits : Nat) : Option KeyPair := do
  let low := bits / 2
  let e := publicExponent
  let p ← primeFrom? e maxTries (candidate seed 0 (bits - low))
  let q ← primeFrom? e maxTries (candidate seed (bits + 1) low)
  guard (p ≠ q)
  let n := p * q
  guard (n.log2 + 1 = bits)
  return ⟨n, e, inverseMod e ((p - 1) * (q - 1)), p, q⟩

/-! ## Armoured forms -/

/-- The identifier of the algorithm, with its empty parameters. -/
def algorithmIdentifier : Bytes :=
  Der.sequence [Der.tagged Der.identifierTag
    [0x2a, 0x86, 0x48, 0x86, 0xf7, 0x0d, 0x01, 0x01, 0x01], Der.tagged Der.nullTag []]

namespace KeyPair

/-- The label of a private key. -/
def privateLabel : String := "PRIVATE KEY"

/-- The label of a public key. -/
def publicLabel : String := "PUBLIC KEY"

/-- The private key in its envelope. -/
def privateDer (k : KeyPair) : Bytes :=
  let numbers := [0, k.modulus, k.exponent, k.secret, k.p, k.q, k.secret % (k.p - 1),
    k.secret % (k.q - 1), inverseMod k.q k.p]
  Der.sequence [Der.natural 0, algorithmIdentifier,
    Der.tagged Der.octetStringTag (Der.sequence (numbers.map Der.natural))]

/-- The public key with its algorithm. -/
def publicDer (k : KeyPair) : Bytes :=
  Der.sequence [algorithmIdentifier, Der.tagged Der.bitStringTag
    (0 :: Der.sequence [Der.natural k.modulus, Der.natural k.exponent])]

/-- The key pair as text. -/
def material (k : KeyPair) : EncryptionMaterial :=
  ⟨Pem.encode publicLabel k.publicDer, Pem.encode privateLabel k.privateDer,
    Base64Url.encode (Bytes.ofNatMinimal k.exponent),
    Base64Url.encode (Bytes.ofNatMinimal k.modulus)⟩

end KeyPair

/-! ## Reading -/

/-- The modulus and exponent of a public key. -/
def publicNumbers? (text : String) : Option (Nat × Nat) := do
  let bytes ← Pem.decode? KeyPair.publicLabel text
  let (body, rest) ← Der.expect? Der.sequenceTag bytes
  guard rest.isEmpty
  let (_, body) ← Der.expect? Der.sequenceTag body
  let (bits, rest) ← Der.expect? Der.bitStringTag body
  guard rest.isEmpty
  let (numbers, _) ← Der.expect? Der.sequenceTag (← Der.wholeBits? bits)
  let (n, numbers) ← Der.natural? numbers
  let (e, _) ← Der.natural? numbers
  return (n, e)

/-- The modulus and exponent of a private key. -/
def privateNumbers? (text : String) : Option (Nat × Nat) := do
  let bytes ← Pem.decode? KeyPair.privateLabel text
  let (body, rest) ← Der.expect? Der.sequenceTag bytes
  guard rest.isEmpty
  let (_, body) ← Der.natural? body
  let (_, body) ← Der.expect? Der.sequenceTag body
  let (contents, _) ← Der.expect? Der.octetStringTag body
  let (numbers, _) ← Der.expect? Der.sequenceTag contents
  let (_, numbers) ← Der.natural? numbers
  let (n, numbers) ← Der.natural? numbers
  let (e, _) ← Der.natural? numbers
  return (n, e)

end Rsa

namespace EncryptionMaterial

/-- The material of a seed with a modulus of so many bits. -/
def ofSeed? (seed : Bytes) (bits : Nat) : Option EncryptionMaterial :=
  (Rsa.generate? seed bits).map Rsa.KeyPair.material

/-- The number that the modulus text writes. -/
def modulusNumber (m : EncryptionMaterial) : Nat :=
  match Base64Url.decodeText m.modulus with
  | .ok bytes => Bytes.toNatBE bytes
  | .error _ => 0

/-- Whether the public half belongs to the private one. -/
def isPair (m : EncryptionMaterial) : Bool :=
  match Rsa.publicNumbers? m.publicKey with
  | some numbers => Rsa.privateNumbers? m.privateKey = some numbers
  | none => false

/-- Whether the modulus text is that of the public half. -/
def modulusMatches (m : EncryptionMaterial) : Bool :=
  match Rsa.publicNumbers? m.publicKey with
  | some (n, _) => n = m.modulusNumber
  | none => false

end EncryptionMaterial

end Latchkey

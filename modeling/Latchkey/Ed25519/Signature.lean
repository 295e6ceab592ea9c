import Latchkey.Digest.Sha512
import Latchkey.Ed25519.Curve

set_option autoImplicit false

/-! # Ed25519 signatures

A 32-byte seed determines everything: its digest gives the secret scalar and the prefix that makes
each signature's nonce, so signing the same message twice gives the same 64 bytes. -/

namespace Latchkey.Ed25519

/-- The secret scalar of a seed: its low digest half with the three lowest bits cleared and the top
    bit fixed. -/
def secretScalar (seed : Bytes) : Nat :=
  let low := Bytes.toNatLE ((Sha512.digest seed).take 32)
  low / 8 * 8 % Nat.pow 2 254 + Nat.pow 2 254

/-- The public point of a seed, in 32 bytes. -/
def publicKey (seed : Bytes) : Bytes :=
  (Point.base.scale (secretScalar seed)).encode

/-- A digest as a scalar. -/
def scalarOf (message : Bytes) : Nat :=
  Bytes.toNatLE (Sha512.digest message) % groupOrder

/-- The signature of a message under a seed. -/
def sign (seed message : Bytes) : Bytes :=
  let nonceKey := (Sha512.digest seed).drop 32
  let nonce := scalarOf (nonceKey ++ message)
  let commitment := (Point.base.scale nonce).encode
  let challenge := scalarOf (commitment ++ publicKey seed ++ message)
  commitment ++ Bytes.ofNatLE 32 ((nonce + challenge * secretScalar seed) % groupOrder)

/-- Whether a signature of a message is valid under a public key. The scalar must be reduced, and
    the commitment is compared in its written form. -/
def verify (key message signature : Bytes) : Bool :=
  match Point.decode? key with
  | none => false
  | some point =>
    if signature.length = 64 then
      let commitment := signature.take 32
      let scalar := Bytes.toNatLE (signature.drop 32)
      if scalar < groupOrder then
        let challenge := scalarOf (commitment ++ key ++ message)
        ((Point.base.scale scalar).add (point.neg.scale challenge)).encode = commitment
      else false
    else false

end Latchkey.Ed25519

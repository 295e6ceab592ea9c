import Latchkey.Digest.Sha256
import Latchkey.Digest.Sha512

set_option autoImplicit false

/-! # Keyed digests

HMAC: the secret, padded to a block (or digested first if it is longer), masks an inner and an outer
digest. -/

namespace Latchkey

/-- A digest that works on blocks. -/
structure BlockDigest where
  /-- Bytes in a block. -/
  blockSize : Nat
  digest : Bytes → Bytes

namespace Hmac

/-- The secret in exactly one block. -/
def blockOf (hash : BlockDigest) (secret : Bytes) : Bytes :=
  let short := if secret.length ≤ hash.blockSize then secret else hash.digest secret
  short ++ List.replicate (hash.blockSize - short.length) 0

/-- The authentication code of a message under a secret. -/
def code (hash : BlockDigest) (secret message : Bytes) : Bytes :=
  let block := blockOf hash secret
  let inner := hash.digest (block.map (· ^^^ 0x36) ++ message)
  hash.digest (block.map (· ^^^ 0x5c) ++ inner)

/-- The code with SHA-256. -/
def sha256 : Bytes → Bytes → Bytes :=
  code ⟨Sha256.blockSize, Sha256.digest⟩

/-- The code with SHA-384. -/
def sha384 : Bytes → Bytes → Bytes :=
  code ⟨Sha512.blockSize, Sha384.digest⟩

/-- The code with SHA-512. -/
def sha512 : Bytes → Bytes → Bytes :=
  code ⟨Sha512.blockSize, Sha512.digest⟩

end Hmac

end Latchkey

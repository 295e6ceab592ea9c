import Latchkey.Key.Signing
import Latchkey.Proofs.Bytes.Base64Url
import Latchkey.Token.Algorithm
import Mathlib.Data.Option.Basic

set_option autoImplicit false

/-! # Keys that were made from a seed

The envelope of a seed opens again (`Ed25519.openEnvelope?_envelope`), so a stored key that was made
from a seed becomes an algorithm that signs with this seed and checks with its public point. -/

namespace Latchkey

/-- A short value is read off whole. -/
theorem Der.expect?_short (tag n : UInt8) (contents rest : Bytes)
    (low : tag &&& 0x1f ≠ 0x1f) (short : n < 0x80) (length : contents.length = n.toNat) :
    Der.expect? tag (tag :: n :: (contents ++ rest)) = some (contents, rest) := by
  have next : Der.next? (tag :: n :: (contents ++ rest)) = some ((tag, contents), rest) := by
    simp [Der.next?, Der.length?, low, short, ← length]
  simp [Der.expect?, next]

namespace Ed25519

/-! ## Envelopes, from the inside -/

/-- The seed as an octet string. -/
def octets (seed : Bytes) : Bytes :=
  0x04 :: 0x20 :: seed

/-- What follows the algorithm in an envelope. -/
def afterAlgorithm (seed : Bytes) : Bytes :=
  0x04 :: 0x22 :: octets seed

/-- What follows the version in an envelope. -/
def afterVersion (seed : Bytes) : Bytes :=
  0x30 :: 0x05 :: (algorithmIdentifier ++ afterAlgorithm seed)

/-- The contents of an envelope. -/
def inside (seed : Bytes) : Bytes :=
  0x02 :: 0x01 :: ([0x00] ++ afterVersion seed)

variable {seed : Bytes}

theorem expect?_octets (length : seed.length = 32) :
    Der.expect? Der.octetStringTag (octets seed) = some (seed, []) := by
  have read := Der.expect?_short Der.octetStringTag 0x20 seed [] (by decide) (by decide) length
  rwa [List.append_nil] at read

theorem seedOf?_octets (length : seed.length = 32) : seedOf? (octets seed) = some seed := by
  rw [seedOf?, expect?_octets length]
  exact if_pos length

theorem expect?_afterAlgorithm (length : seed.length = 32) :
    Der.expect? Der.octetStringTag (afterAlgorithm seed) = some (octets seed, []) := by
  have read := Der.expect?_short Der.octetStringTag 0x22 (octets seed) [] (by decide) (by decide)
    (by simp [octets, length])
  rwa [List.append_nil] at read

theorem expect?_afterVersion (seed : Bytes) :
    Der.expect? Der.sequenceTag (afterVersion seed)
      = some (algorithmIdentifier, afterAlgorithm seed) :=
  Der.expect?_short _ _ _ _ (by decide) (by decide) rfl

theorem natural?_inside (seed : Bytes) :
    Der.natural? (inside seed) = some (0, afterVersion seed) := by
  have read : Der.expect? Der.integerTag (inside seed) = some ([0x00], afterVersion seed) :=
    Der.expect?_short _ _ _ _ (by decide) (by decide) rfl
  rw [Der.natural?, read]
  rfl

theorem expect?_envelope (length : seed.length = 32) :
    Der.expect? Der.sequenceTag (envelope seed) = some (inside seed, []) := by
  have read := Der.expect?_short Der.sequenceTag 0x2e (inside seed) [] (by decide) (by decide)
    (by simp [inside, afterVersion, algorithmIdentifier, afterAlgorithm, octets, length])
  rwa [List.append_nil] at read

/-- The envelope of a seed holds this seed. -/
theorem openEnvelope?_envelope (length : seed.length = 32) :
    openEnvelope? (envelope seed) = some seed := by
  have contents := expect?_afterAlgorithm length
  have attributes : afterAttributes? [] = some [] := rfl
  simp only [openEnvelope?, expect?_envelope length, natural?_inside, expect?_afterVersion,
    contents, attributes, seedOf?_octets length, bind, Option.bind_some]
  rfl

end Ed25519

/-! ## Stored keys -/

namespace KeyAlgorithm

variable {seed : Bytes} {key : SigningKey}

/-- The algorithm of a stored key that was made from a seed. -/
def ofSeed (id : Uuid) (seed : Bytes) : KeyAlgorithm :=
  edDsa id.toText (Ed25519.envelope seed) (Ed25519.publicKey seed)

theorem edDsaOf_of_seed (made : key.material = .ofSeed seed) :
    edDsaOf key = .ok (ofSeed key.id seed) := by
  simp only [edDsaOf, made, SigningMaterial.ofSeed, Base64Url.decodeText_encode]
  rfl

theorem sign_ofSeed (id : Uuid) (length : seed.length = 32) (message : Bytes) :
    (ofSeed id seed).sign message = .ok (Base64Url.encode (Ed25519.sign seed message)) := by
  simp only [sign, ofSeed, edDsa, SigningHalf.signer, AlgorithmName.family,
    Ed25519.openEnvelope?_envelope length]
  rfl

theorem accepts_ofSeed (id : Uuid) (message signature : Bytes) :
    (ofSeed id seed).accepts message (Base64Url.encode signature)
      = .ok (Ed25519.verify (Ed25519.publicKey seed) message signature) := by
  simp only [accepts, ofSeed, edDsa, AlgorithmName.family, judge, Base64Url.decodeText_encode]

end KeyAlgorithm

end Latchkey

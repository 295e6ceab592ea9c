import Latchkey.Proofs.Token.RoundTrip

set_option autoImplicit false

/-! # Fresh signing keys

A key is written by hand: sixteen fixed bytes in front of the seed. Other code reads it, one tagged
value after the other. For every seed of the right length the bytes are those that the general
writer of tagged values gives (`Ed25519.envelope_eq_sequence`) and read back value by value
(`Ed25519.readsAs_envelope`), so a stored key that was made from a seed resolves, and the resolved
algorithm signs with this seed and checks with its public point (`KeyAlgorithm.resolves_fresh`). -/

namespace Latchkey

namespace Ed25519

variable {seed : Bytes}

/-! ## The envelope as tagged values -/

/-- The number of the algorithm, 1.3.101.112; the first two parts share a byte. -/
def algorithmNumber : Bytes := [40 * 1 + 3, 101, 112]

/-- The bytes are a private key of version 0 around the seed: a sequence of the number 0, the
    sequence of the algorithm's number, and an octet string with the octet string of the seed in it.
    Each value is read to its end, and nothing is left over. -/
def ReadsAs (bytes seed : Bytes) : Prop :=
  ∃ inside afterVersion algorithm afterAlgorithm octets,
    Der.expect? Der.sequenceTag bytes = some (inside, [])
      ∧ Der.natural? inside = some (0, afterVersion)
      ∧ Der.expect? Der.sequenceTag afterVersion = some (algorithm, afterAlgorithm)
      ∧ Der.expect? Der.identifierTag algorithm = some (algorithmNumber, [])
      ∧ Der.expect? Der.octetStringTag afterAlgorithm = some (octets, [])
      ∧ Der.expect? Der.octetStringTag octets = some (seed, [])

theorem length_envelope (length : seed.length = 32) : (envelope seed).length = 48 := by
  simp [envelope, envelopeHead, algorithmIdentifier, length]

theorem length_publicKey (seed : Bytes) : (publicKey seed).length = 32 :=
  Bytes.length_ofNatLE _ _

/-- The fixed bytes are the ones that the general writer puts in front of a seed. -/
theorem envelope_eq_sequence (length : seed.length = 32) :
    envelope seed = Der.sequence [Der.natural 0,
      Der.sequence [Der.tagged Der.identifierTag algorithmNumber],
      Der.tagged Der.octetStringTag (Der.tagged Der.octetStringTag seed)] := by
  have wrapped : Der.tagged Der.octetStringTag (Der.tagged Der.octetStringTag seed)
      = [0x04, 0x22, 0x04, 0x20] ++ seed := by
    simp [Der.tagged, Der.lengthBytes, Der.octetStringTag, length]
  have version : Der.natural 0 = [0x02, 0x01, 0x00] := by decide
  have algorithm : Der.sequence [Der.tagged Der.identifierTag algorithmNumber]
      = [0x30, 0x05] ++ algorithmIdentifier := by decide
  rw [wrapped, version, algorithm]
  simp [Der.sequence, Der.tagged, Der.lengthBytes, Der.sequenceTag, algorithmIdentifier, length,
    envelope, envelopeHead]

theorem readsAs_envelope (length : seed.length = 32) : ReadsAs (envelope seed) seed :=
  ⟨inside seed, afterVersion seed, algorithmIdentifier, afterAlgorithm seed, octets seed,
    expect?_envelope length, natural?_inside seed, expect?_afterVersion seed, by decide,
    expect?_afterAlgorithm length, expect?_octets length⟩

end Ed25519

/-! ## Resolved keys -/

namespace KeyAlgorithm

variable {seed : Bytes}

theorem paired_ofSeed_iff (id : Uuid) (length : seed.length = 32) :
    (ofSeed id seed).Paired ↔ ∀ message,
      Ed25519.verify (Ed25519.publicKey seed) message (Ed25519.sign seed message) = true := by
  refine ⟨?_, paired_ofSeed id length⟩
  intro paired message
  have accepted := paired.accepts_sign (sign_ofSeed id length message)
  rw [accepts_ofSeed] at accepted
  exact Except.ok.inj accepted

/-- A record that holds the key of a seed resolves to the Ed25519 algorithm that bears the record's
    identifier. Its private text is the strict base64 of 48 bytes, which are the private key of
    version 0 around this seed and no other, and its public text that of the 32 bytes of the seed's
    public point. The algorithm signs every message, with the seed, and what it says of that
    signature is what Ed25519 says of the seed's own signature under the seed's own point. So it
    accepts all that it signs if and only if Ed25519 does, for this seed. -/
theorem resolves_fresh {key : SigningKey} (length : seed.length = 32)
    (made : key.material = .ofSeed seed) :
    ∃ algorithm envelope, edDsaOf key = .ok algorithm
      ∧ (algorithm.name = .EdDSA ∧ algorithm.keyId = key.id.toText
        ∧ Uuid.parse algorithm.keyId = .ok key.id)
      ∧ (Base64Url.decodeText key.material.privateKey = .ok envelope
        ∧ envelope.length = 48
        ∧ Ed25519.ReadsAs envelope seed
        ∧ Ed25519.openEnvelope? envelope = some seed)
      ∧ (Base64Url.decodeText key.material.publicKey = .ok (Ed25519.publicKey seed)
        ∧ (Ed25519.publicKey seed).length = 32)
      ∧ (∀ message, ∃ signature, algorithm.sign message = .ok signature
        ∧ Base64Url.decodeText signature = .ok (Ed25519.sign seed message)
        ∧ algorithm.accepts message signature = .ok
          (Ed25519.verify (Ed25519.publicKey seed) message (Ed25519.sign seed message)))
      ∧ (algorithm.Paired ↔ ∀ message,
        Ed25519.verify (Ed25519.publicKey seed) message (Ed25519.sign seed message) = true) := by
  refine ⟨ofSeed key.id seed, Ed25519.envelope seed, edDsaOf_of_seed made,
    ⟨rfl, rfl, Uuid.parse_toText key.id⟩, ⟨?_, Ed25519.length_envelope length,
      Ed25519.readsAs_envelope length, Ed25519.openEnvelope?_envelope length⟩,
    ⟨?_, Ed25519.length_publicKey seed⟩, ?_, paired_ofSeed_iff key.id length⟩
  · rw [made]
    exact Base64Url.decodeText_encode _
  · rw [made]
    exact Base64Url.decodeText_encode _
  · intro message
    exact ⟨_, sign_ofSeed key.id length message, Base64Url.decodeText_encode _,
      accepts_ofSeed key.id message _⟩

/-- The key of the seed that is all zeros accepts its own signature of the empty message. -/
theorem resolves_fresh_zeros :
    let seed : Bytes := List.replicate 32 0
    let key : SigningKey := ⟨.ofNat 7, .ofSeed seed, ⟨0, 0⟩, none⟩
    ∃ algorithm signature, edDsaOf key = .ok algorithm
      ∧ algorithm.keyId = "00000000-0000-0000-0000-000000000007"
      ∧ algorithm.sign [] = .ok signature ∧ algorithm.accepts [] signature = .ok true := by
  intro seed key
  have made : key.material = .ofSeed seed := rfl
  obtain ⟨algorithm, envelope, resolved, ⟨-, id, -⟩, -, -, signs, -⟩ :=
    resolves_fresh List.length_replicate made
  obtain ⟨signature, signed, -, accepted⟩ := signs []
  have verifies : Ed25519.verify (Ed25519.publicKey seed) [] (Ed25519.sign seed []) = true := by
    decide +kernel
  refine ⟨algorithm, signature, resolved, ?_, signed, accepted.trans (by rw [verifies])⟩
  rw [id]
  decide +kernel

end KeyAlgorithm

end Latchkey

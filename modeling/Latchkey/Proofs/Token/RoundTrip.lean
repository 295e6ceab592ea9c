import Latchkey.Proofs.Ed25519.Envelope
import Latchkey.Proofs.Token.Issued

set_option autoImplicit false

/-! # Issuing and verifying

What a token is issued with is what verification finds in it, from the issue on until the second of
expiry (`TokenCodec.verify_issue`). This takes a pair of keys, of which one accepts what the other
signs, and custom claims that JSON can carry as they are. -/

namespace Latchkey

namespace KeyAlgorithm

/-- The two halves of a key belong together: every message can be signed, and the signature is
    accepted. -/
def Paired (algorithm : KeyAlgorithm) : Prop :=
  ∀ message, ∃ signature, algorithm.sign message = .ok signature
    ∧ algorithm.accepts message signature = .ok true

theorem paired_hs256 (keyId : String) (secret : Bytes) : Paired (hs256 keyId secret) :=
  fun _ => ⟨_, rfl, congrArg Except.ok (decide_eq_true rfl)⟩

/-- A key that was made from a seed is a pair if its signatures verify. -/
theorem paired_ofSeed {seed : Bytes} (id : Uuid) (length : seed.length = 32)
    (verifies : ∀ message,
      Ed25519.verify (Ed25519.publicKey seed) message (Ed25519.sign seed message) = true) :
    (ofSeed id seed).Paired := by
  refine fun message => ⟨_, sign_ofSeed id length message, ?_⟩
  rw [accepts_ofSeed, verifies]

variable {algorithm : KeyAlgorithm} {message : Bytes} {signature : String}

theorem Paired.accepts_sign (paired : algorithm.Paired)
    (signed : algorithm.sign message = .ok signature) :
    algorithm.accepts message signature = .ok true := by
  obtain ⟨signature', signed', accepted⟩ := paired message
  rwa [Except.ok.inj (signed.symm.trans signed')]

end KeyAlgorithm

namespace TokenCodec

/-- Verification undoes issuing. A token can be issued at every representable instant from which the
    lifetime can be added, and if that does not end before 1970, it verifies as long as neither clock
    has passed its expiry. What is found is what it was issued with: the codec's issuer and audience,
    the user, the seconds of issue and expiry, the identifier, and the custom claims without the
    reserved names. The identifiers in it read as what they were. -/
theorem verify_issue (codec : TokenCodec) (algorithm : KeyAlgorithm) (paired : algorithm.Paired)
    (tokenId userId : Uuid) (custom : Json.Members) (plain : Claims.Plain custom)
    (now expiresAt : Instant) (within : Instant.inRange now.seconds = true)
    (added : now.add? codec.span = some expiresAt) (since : 0 ≤ expiresAt.seconds) :
    ∃ issued claims, codec.issue algorithm tokenId userId custom now = .ok issued
      ∧ (∀ later second, later.seconds < expiresAt.seconds → second ≤ expiresAt.seconds →
        codec.verify algorithm issued.token later second = .ok claims)
      ∧ claims = ⟨codec.issuer, codec.audience, some userId.toText, now.seconds, expiresAt.seconds,
        tokenId.toText, Claims.stripReserved custom⟩
      ∧ claims.userId = .ok userId ∧ claims.recordId = .ok tokenId := by
  have signs (message : Bytes) : ∃ signature, algorithm.sign message = .ok signature :=
    (paired message).imp fun _ => And.left
  obtain ⟨issued, issues⟩ :=
    exists_issue signs tokenId userId custom (Option.isSome_of_eq_some added)
  obtain rfl : issued.expiresAt = expiresAt := by
    obtain ⟨expiresAt', _, added', -, rfl⟩ := issue_eq_ok_iff.1 issues
    exact Option.some.inj (added'.symm.trans added)
  obtain ⟨parts, reads⟩ := reads_issued issues plain within
  have ids := ids_of_issue issues
  refine ⟨issued, codec.claimsOf custom now issued, issues, fun later second fresh current =>
    reads.verify_eq (paired.accepts_sign reads.signed) fresh current since, ?_, ?_, ?_⟩
  · rw [claimsOf, ids.1, ids.2]
    rfl
  · rw [userId_claimsOf, ids.2]
  · rw [recordId_claimsOf, ids.1]

/-- Custom claims that try to set the expiry are carried without that, and a name and a text that
    JSON has to escape come back. -/
theorem verify_issue_escaped :
    let codec : TokenCodec := ⟨"keys", "notes", 60, by decide, by decide⟩
    let algorithm : KeyAlgorithm := .hs256 "k" [7]
    let custom : Json.Members := [("exp", .int 9), ("say \"é\"", .string "a\\\n")]
    ∃ issued claims, codec.issue algorithm (.ofNat 1) (.ofNat 2) custom ⟨0, 5⟩ = .ok issued
      ∧ codec.verify algorithm issued.token ⟨59, 6⟩ 60 = .ok claims
      ∧ claims.expiresAt = 60 ∧ claims.userId = .ok (.ofNat 2)
      ∧ claims.custom = [("say \"é\"", .string "a\\\n")] := by
  intro codec algorithm custom
  have plain : Claims.Plain custom := by
    refine ⟨⟨?_, ?_⟩, ?_⟩
    · change ["exp", "say \"é\""].Pairwise (· < ·)
      decide
    · exact ⟨⟨by decide, by decide⟩, trivial, trivial⟩
    · exact ⟨trivial, trivial, trivial⟩
  obtain ⟨issued, claims, issues, verifies, rfl, owner, -⟩ := verify_issue codec algorithm
    (KeyAlgorithm.paired_hs256 _ _) (.ofNat 1) (.ofNat 2) custom plain ⟨0, 5⟩ ⟨60, 5⟩
    (by decide) (by decide) (by decide)
  exact ⟨issued, _, issues, verifies ⟨59, 6⟩ 60 (by decide) (by decide), rfl, owner, rfl⟩

end TokenCodec

end Latchkey

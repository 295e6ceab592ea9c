import Latchkey.Proofs.Token.Genuine
import Latchkey.Proofs.Token.Message

set_option autoImplicit false

/-! # What a rejection gives away

That a token has expired, or is of another issuer or for another audience, is told only to who
presents an authentic one: its header names the algorithm and the key, and its signature is one of
exactly its header and its payload. Whoever puts another header or payload before a signature learns
nothing but that the token is malformed or the signature wrong, whatever the new text claims
(`TokenCodec.details_only_when_authentic`). -/

namespace Latchkey

/-- A token that the key has signed: its header names the algorithm and the key, and its signature
    verifies for the header and the payload as they stand. -/
def KeyAlgorithm.Authentic (algorithm : KeyAlgorithm) (token : String) : Prop :=
  ∃ header payload signature,
    token = Compact.joined header payload (Base64Url.encode signature)
      ∧ Compact.headerOf header = .ok ⟨algorithm.name, some algorithm.keyId⟩
      ∧ algorithm.Verifies (Bytes.ofText (Compact.signedText header payload)) signature

/-- A cause that says of a token no more than that it is not one. -/
def VerificationError.IsBlunt (cause : VerificationError) : Prop :=
  cause = .badSignature ∨ ∃ reason, cause = .malformed reason

namespace Compact

variable {algorithm : KeyAlgorithm} {token : String} {claims : Claims} {header : Header}
  {r : Rejection}

/-- A token of the key that opens is authentic. -/
theorem authentic_of_opened (read : readHeader token = .ok header)
    (named : header.keyId = some algorithm.keyId) (opens : opened algorithm token = .ok claims) :
    algorithm.Authentic token := by
  obtain ⟨parts, header', split, found, name, accepted, -⟩ := opened_eq_ok_iff.1 opens
  rw [readHeader, split] at read
  obtain rfl := Except.ok.inj (read.symm.trans found)
  obtain ⟨signature, encoded, verifies⟩ := KeyAlgorithm.accepts_eq_ok_true_iff.1 accepted
  refine ⟨parts.header, parts.payload, signature, ?_, ?_, verifies⟩
  · rw [← encoded]
    exact (parts?_eq_some split).1
  · rw [← name, ← named]
    exact found

theorem isBlunt_of_readHeader (refused : readHeader token = .error r) :
    r.toVerificationError.IsBlunt :=
  .inr ⟨_, malformed_of_readHeader refused⟩

theorem isBlunt_of_opened (refused : opened algorithm token = .error r) :
    r.toVerificationError.IsBlunt := by
  rcases invalidSignature_or_malformed_of_opened refused with rfl | malformed
  · exact .inl rfl
  · exact .inr ⟨_, malformed⟩

end Compact

namespace TokenCodec

variable {algorithm : KeyAlgorithm} {token : String}

/-- Of a token that is not authentic no more is said than that. -/
theorem blunt_or_authentic (codec : TokenCodec) (algorithm : KeyAlgorithm) (token : String)
    (now : Instant) (second : Int) :
    (∃ cause : VerificationError, cause.IsBlunt
        ∧ codec.verify algorithm token now second = .error (.verification cause))
      ∨ algorithm.Authentic token := by
  unfold verify
  cases read : Compact.readHeader token with
  | error r => exact .inl ⟨_, Compact.isBlunt_of_readHeader read, rfl⟩
  | ok header =>
    dsimp only
    by_cases named : header.keyId = some algorithm.keyId
    · rw [if_neg (Classical.not_not.2 named), Compact.check_eq_bind]
      cases opens : Compact.opened algorithm token with
      | error r => exact .inl ⟨_, Compact.isBlunt_of_opened opens, rfl⟩
      | ok claims => exact .inr (Compact.authentic_of_opened read named opens)
    · rw [if_pos named]
      exact .inl ⟨_, .inr ⟨_, rfl⟩, rfl⟩

/-- Reading without verifying fails in one way only. -/
theorem malformed_of_decode {e : Error} (refused : decode token = .error e) :
    ∃ reason, e = .malformed reason := by
  unfold decode at refused
  split at refused
  · rename_i r unread
    rw [rejected, Compact.malformed_of_readHeader unread] at refused
    exact ⟨_, (Except.error.inj refused).symm⟩
  split at refused
  · exact ⟨_, (Except.error.inj refused).symm⟩
  split at refused
  · exact ⟨_, (Except.error.inj refused).symm⟩
  split at refused
  · exact ⟨_, (Except.error.inj refused).symm⟩
  · cases refused

/-- Details are given only of authentic tokens:
    - Who is told that a token has expired, or is of another issuer or for another audience, has
      presented an authentic one.
    - Suppose that the signature of a token verifies only for messages that the key has signed. Then
      any other header or payload before it, that make no such message, are answered as malformed or
      as wrongly signed, whatever they claim.
    - Reading without verifying never says more than that a token is malformed. -/
theorem details_only_when_authentic (codec : TokenCodec) (algorithm : KeyAlgorithm)
    (token : String) (now : Instant) (second : Int) :
    (∀ cause, cause = .expired ∨ cause = .issuerMismatch ∨ cause = .audienceMismatch →
        codec.verify algorithm token now second = .error (.verification cause) →
          algorithm.Authentic token)
      ∧ (∀ (signed : Bytes → Prop) (parts : Compact.Parts), Compact.parts? token = some parts →
        (∀ message signature, parts.signature = Base64Url.encode signature →
          algorithm.Verifies message signature → signed message) →
        ∀ header payload, ¬ signed (Bytes.ofText (Compact.signedText header payload)) →
          ∃ cause : VerificationError, cause.IsBlunt
            ∧ codec.verify algorithm (Compact.joined header payload parts.signature) now second
              = .error (.verification cause))
      ∧ ∀ e, decode token = .error e → ∃ reason, e = .malformed reason := by
  refine ⟨fun cause detailed refused => ?_,
    fun signed parts split unforged header payload new => ?_,
    fun e refused => malformed_of_decode refused⟩
  · rcases blunt_or_authentic codec algorithm token now second with ⟨cause', blunt, refused'⟩ | own
    · obtain rfl := Error.verification.inj (Except.error.inj (refused.symm.trans refused'))
      rcases detailed with rfl | rfl | rfl <;> simp [VerificationError.IsBlunt] at blunt
    · exact own
  · refine (blunt_or_authentic codec algorithm _ now second).resolve_right ?_
    rintro ⟨header', payload', signature, same, -, verifies⟩
    -- The last dot parts the signature from the message, whichever dots there are in the new text.
    obtain ⟨message, encoded⟩ := Compact.signedText_inj (Compact.parts?_eq_some split).2.2
      (Base64Url.dot_not_mem_encode signature) same
    rw [← message] at verifies
    exact new (unforged _ signature encoded verifies)

/-- A token is signed with a secret and presented too late. It is said to have expired, since it is
    authentic. Nothing is said to have expired that has no signature at all. -/
theorem details_of_expired_token :
    let codec : TokenCodec := ⟨"keys", "notes", 60, by decide, by decide⟩
    let algorithm : KeyAlgorithm := .hs256 "k" [7]
    ∃ issued, codec.issue algorithm (.ofNat 1) (.ofNat 2) [] ⟨0, 0⟩ = .ok issued
      ∧ codec.verify algorithm issued.token ⟨59, 0⟩ 61 = .error (.verification .expired)
      ∧ algorithm.Authentic issued.token
      ∧ ∀ header payload, ∃ cause : VerificationError, cause.IsBlunt
        ∧ codec.verify algorithm (Compact.joined header payload "") ⟨59, 0⟩ 61
          = .error (.verification cause) := by
  intro codec algorithm
  obtain ⟨issued, issues⟩ : ∃ issued,
      codec.issue algorithm (.ofNat 1) (.ofNat 2) [] ⟨0, 0⟩ = .ok issued :=
    exists_issue (fun _ => ⟨_, rfl⟩) _ _ _ (by decide)
  have expiry : issued.expiresAt = ⟨60, 0⟩ := expiresAt_of_issue issues (by decide)
  obtain ⟨parts, reads⟩ := reads_issued issues ⟨Claims.shaped_nil, trivial⟩ (by decide)
  have own : algorithm.accepts (Bytes.ofText (Compact.signedText parts.header parts.payload))
      parts.signature = .ok true :=
    congrArg Except.ok (decide_eq_true (Except.ok.inj reads.signed).symm)
  have expired : codec.verify algorithm issued.token ⟨59, 0⟩ 61
      = .error (.verification .expired) := by
    refine verify_eq_expired_iff.2 ⟨⟨_, reads.readHeader_eq, rfl⟩, codec.claimsOf [] ⟨0, 0⟩ issued,
      Compact.opened_eq_ok_iff.2 ⟨parts, _, reads.split, reads.header, rfl, own, reads.claims⟩, ?_⟩
    simp [claimsOf, claimsFor, expiry]
  have stripped := (details_only_when_authentic codec algorithm ".." ⟨59, 0⟩ 61).2.1
    (fun _ => False) ⟨"", "", ""⟩ rfl ?_
  · exact ⟨issued, issues, expired,
      (details_only_when_authentic codec algorithm _ _ _).1 _ (.inl rfl) expired,
      fun header payload => stripped header payload id⟩
  · -- A keyed digest is never empty.
    intro message signature empty verifies
    obtain rfl : [] = signature := Base64Url.encode_inj.1 empty
    have digest : [] = Hmac.sha256 [7] message := verifies
    have length := congrArg List.length digest
    simp [Hmac.sha256, Hmac.code, Sha256.digest, Bytes.ofNatBE] at length

end TokenCodec

end Latchkey

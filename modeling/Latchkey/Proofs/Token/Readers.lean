import Latchkey.Proofs.Token.Genuine

set_option autoImplicit false

/-! # Two ways to read a token

Reading without verifying counts the parts of a token from the left, and checking counts them from
the right. On a text with more than two dots the two disagree, but then there is a dot in what the
checks take for the header, which is no base64. So whatever header and claims are checked are those
that were read (`TokenCodec.decode_agrees`), and the key that was looked up by what was read is the
right one to check with. -/

namespace Latchkey

namespace Compact

variable {token : String} {parts : Parts} {header : Header}

/-- A header that can be read has no dot in it, so both ways to count find the same payload. -/
theorem secondPart?_of_readHeader (read : readHeader token = .ok header)
    (split : parts? token = some parts) : secondPart? token = some parts.payload := by
  obtain ⟨whole, second, -⟩ := parts?_eq_some split
  rw [readHeader, split] at read
  obtain ⟨bytes, encoded, -⟩ := headerOf_eq_ok_iff.1 read
  have first : '.' ∉ parts.header.toList := by
    rw [encoded]
    exact Base64Url.dot_not_mem_encode bytes
  rw [whole]
  exact secondPart?_joined first second

theorem readHeader_eq_ok_iff :
    readHeader token = .ok header
      ↔ ∃ parts, parts? token = some parts ∧ headerOf parts.header = .ok header := by
  unfold readHeader
  cases parts? token with
  | none => simp
  | some parts => simp

end Compact

namespace TokenCodec

variable {codec : TokenCodec} {algorithm : KeyAlgorithm} {token : String} {decoded : DecodedToken}
  {claims : Claims} {now : Instant} {second : Int}

/-- Reading without verifying, told by the parts as they are counted from the right. -/
theorem decode_eq_ok_iff :
    decode token = .ok decoded
      ↔ ∃ parts header bytes, Compact.parts? token = some parts
        ∧ Compact.headerOf parts.header = .ok header
        ∧ Base64Url.decodeText parts.payload = .ok bytes
        ∧ Claims.parse? bytes = some decoded.claims ∧ decoded.keyId = header.keyId := by
  unfold decode
  cases read : Compact.readHeader token with
  | error r =>
    simp only [rejected, reduceCtorEq, false_iff]
    rintro ⟨parts, header, -, split, read', -⟩
    rw [Compact.readHeader_eq_ok_iff.2 ⟨parts, split, read'⟩] at read
    simp at read
  | ok header =>
    obtain ⟨parts, split, read'⟩ := Compact.readHeader_eq_ok_iff.1 read
    simp only [Compact.secondPart?_of_readHeader read split, split, Option.some.injEq,
      exists_and_left, exists_eq_left', read', Except.ok.injEq]
    cases Base64Url.decodeText parts.payload with
    | error cause => simp
    | ok bytes =>
      simp only [Except.ok.injEq, exists_eq_left']
      cases Claims.parse? bytes with
      | none => simp
      | some claims =>
        obtain ⟨keyId, claims'⟩ := decoded
        simp only [Except.ok.injEq, DecodedToken.mk.injEq, Option.some.injEq]
        constructor
        · rintro ⟨named, same⟩
          exact ⟨same, named.symm⟩
        · rintro ⟨same, named⟩
          exact ⟨named.symm, same⟩

/-- Claims that get as far as to be checked are what is read. -/
theorem decode_of_opened (opens : Compact.opened algorithm token = .ok claims) :
    ∃ header, Compact.readHeader token = .ok header
      ∧ decode token = .ok ⟨header.keyId, claims⟩ := by
  obtain ⟨parts, header, split, read, -, -, parsed⟩ := Compact.opened_eq_ok_iff.1 opens
  obtain ⟨bytes, decoded, written⟩ := Compact.parse?_of_claimsOf parsed
  exact ⟨header, Compact.readHeader_eq_ok_iff.2 ⟨parts, split, read⟩,
    decode_eq_ok_iff.2 ⟨parts, header, bytes, split, read, decoded, written, rfl⟩⟩

/-- The key identifier that is read is the one that verification compares first. -/
theorem verify_of_other_key (read : decode token = .ok decoded)
    (other : decoded.keyId ≠ some algorithm.keyId) :
    codec.verify algorithm token now second
      = .error (.malformed "kid header does not match the verification key") := by
  obtain ⟨parts, header, -, split, found, -, -, same⟩ := decode_eq_ok_iff.1 read
  have header := Compact.readHeader_eq_ok_iff.2 ⟨parts, split, found⟩
  rw [same] at other
  simp only [verify, header, ne_eq, other, not_false_eq_true, if_true]

/-- Whatever text a token is: if it verifies, then reading it without verifying gives the same
    claims, and the identifier of the key it was verified with. No text is read as one thing and
    checked as another: claims that get as far as to be checked are those that are read, and where
    another key is read, verification sees that it is another one. -/
theorem decode_agrees (codec : TokenCodec) (algorithm : KeyAlgorithm) (token : String)
    (now : Instant) (second : Int) :
    (∀ claims, codec.verify algorithm token now second = .ok claims →
        decode token = .ok ⟨some algorithm.keyId, claims⟩)
      ∧ ∀ decoded, decode token = .ok decoded →
        (∀ claims, Compact.opened algorithm token = .ok claims → decoded.claims = claims)
        ∧ (decoded.keyId ≠ some algorithm.keyId →
          codec.verify algorithm token now second
            = .error (.malformed "kid header does not match the verification key")) := by
  refine ⟨fun claims verified => ?_, fun decoded read => ⟨fun claims opens => ?_, fun other => ?_⟩⟩
  · obtain ⟨⟨header, found, named⟩, checked, -⟩ := verify_eq_ok_iff.1 verified
    obtain ⟨header', found', reads⟩ :=
      decode_of_opened (Compact.check_eq_ok_iff_opened.1 checked).1
    obtain rfl := Except.ok.inj (found.symm.trans found')
    rw [reads, named]
  · obtain ⟨header, -, reads⟩ := decode_of_opened opens
    rw [Except.ok.inj (read.symm.trans reads)]
  · exact verify_of_other_key read other

/-- A token that was signed with a secret is read as it is verified. Under a key of the same secret
    and another name it is not verified. -/
theorem decode_agrees_on_issued :
    let codec : TokenCodec := ⟨"keys", "notes", 60, by decide, by decide⟩
    let algorithm : KeyAlgorithm := .hs256 "k" [7]
    let other : KeyAlgorithm := .hs256 "j" [7]
    ∃ token claims, codec.verify algorithm token ⟨59, 6⟩ 60 = .ok claims
      ∧ decode token = .ok ⟨some "k", claims⟩
      ∧ codec.verify other token ⟨59, 6⟩ 60
        = .error (.malformed "kid header does not match the verification key") := by
  intro codec algorithm other
  obtain ⟨issued, issues⟩ : ∃ issued,
      codec.issue algorithm (.ofNat 1) (.ofNat 2) [] ⟨0, 5⟩ = .ok issued :=
    exists_issue (fun _ => ⟨_, rfl⟩) _ _ _ (by decide)
  have expiry : issued.expiresAt = ⟨60, 5⟩ := expiresAt_of_issue issues (by decide)
  obtain ⟨parts, reads⟩ := reads_issued issues ⟨Claims.shaped_nil, trivial⟩ (by decide)
  have own : algorithm.accepts (Bytes.ofText (Compact.signedText parts.header parts.payload))
      parts.signature = .ok true :=
    congrArg Except.ok (decide_eq_true (Except.ok.inj reads.signed).symm)
  have verified : codec.verify algorithm issued.token ⟨59, 6⟩ 60
      = .ok (codec.claimsOf [] ⟨0, 5⟩ issued) :=
    reads.verify_eq own (by simp [expiry]) (by simp [expiry]) (by simp [expiry])
  have read := (decode_agrees codec algorithm issued.token ⟨59, 6⟩ 60).1 _ verified
  refine ⟨issued.token, _, verified, read, ?_⟩
  exact ((decode_agrees codec other issued.token ⟨59, 6⟩ 60).2 _ read).2
    (by simp [algorithm, other])

end TokenCodec

end Latchkey

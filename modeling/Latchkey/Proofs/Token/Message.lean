import Latchkey.Proofs.Token.Issued

set_option autoImplicit false

/-! # What a signature covers

A signature covers the header and the payload of a token, and nothing else of it. So a token that
has the same message as an issued one says what that was issued with, whatever its signature is
(`TokenCodec.issuedWith_of_message?`). -/

namespace Latchkey

namespace Compact

/-- The header and the payload of a token with the dot between them, which is what its signature
    covers. -/
def message? (token : String) : Option String :=
  (parts? token).map fun parts => signedText parts.header parts.payload

variable {token token' header payload header' payload' : String} {parts parts' : Parts}

theorem message?_of_parts? (split : parts? token = some parts) :
    message? token = some (signedText parts.header parts.payload) := by
  rw [message?, split, Option.map_some]

/-- A message falls apart in one way only if there is no dot in the payload. -/
theorem signedText_inj (none : '.' ∉ payload.toList) (none' : '.' ∉ payload'.toList)
    (same : signedText header payload = signedText header' payload') :
    header = header' ∧ payload = payload' := by
  have chars := congrArg String.toList same
  simp only [signedText, String.toList_append, List.append_assoc] at chars
  have halves : some (header.toList, payload.toList) = some (header'.toList, payload'.toList) :=
    (splitLast?_append _ none).symm.trans
      ((congrArg splitLast? chars).trans (splitLast?_append _ none'))
  obtain ⟨first, second⟩ := Prod.mk.inj (Option.some.inj halves)
  exact ⟨String.toList_injective first, String.toList_injective second⟩

/-- Tokens with the same message have the same header and the same payload. -/
theorem eq_of_message?_eq (split : parts? token = some parts) (split' : parts? token' = some parts')
    (same : message? token = message? token') :
    parts.header = parts'.header ∧ parts.payload = parts'.payload := by
  rw [message?_of_parts? split, message?_of_parts? split'] at same
  exact signedText_inj (parts?_eq_some split).2.1 (parts?_eq_some split').2.1 (Option.some.inj same)

end Compact

namespace TokenCodec

variable {codec : TokenCodec} {algorithm : KeyAlgorithm} {tokenId userId : Uuid}
  {custom : Json.Members} {now : Instant} {issued : IssuedToken} {token : String} {claims : Claims}

/-- The claims are those that a token was issued with. Only custom claims with doubles in them may
    read differently. -/
def IssuedWith (codec : TokenCodec) (issued : IssuedToken) (claims : Claims) : Prop :=
  ∃ algorithm custom now,
    codec.issue algorithm issued.tokenId issued.userId custom now = .ok issued
      ∧ claims = { codec.claimsOf custom now issued with custom := claims.custom }
      ∧ (Claims.Plain custom → claims = codec.claimsOf custom now issued)

theorem IssuedWith.userId_eq (h : codec.IssuedWith issued claims) :
    claims.userId = .ok issued.userId := by
  obtain ⟨_, custom, now, -, same, -⟩ := h
  rw [same]
  exact userId_claimsOf codec custom now issued

theorem IssuedWith.recordId_eq (h : codec.IssuedWith issued claims) :
    claims.recordId = .ok issued.tokenId := by
  obtain ⟨_, custom, now, -, same, -⟩ := h
  rw [same]
  exact recordId_claimsOf codec custom now issued

/-- The header and the payload of an issued token. -/
theorem parts?_of_issue
    (issues : codec.issue algorithm issued.tokenId issued.userId custom now = .ok issued) :
    ∃ signature, Compact.parts? issued.token
      = some ⟨Base64Url.encode (Header.render algorithm.name algorithm.keyId),
        Base64Url.encode (codec.claimsOf custom now issued).render, signature⟩ := by
  obtain ⟨expiresAt, text, -, written, whole⟩ := issue_eq_ok_iff.1 issues
  obtain ⟨signature, signed, rfl⟩ := Compact.write_eq_ok_iff.1 written
  obtain ⟨bytes, rfl⟩ := Compact.sign_eq_ok signed
  refine ⟨Base64Url.encode bytes, ?_⟩
  have claims : codec.claimsOf custom now issued
      = codec.claimsFor issued.tokenId issued.userId custom now expiresAt := by rw [whole]; rfl
  rw [claims, congrArg IssuedToken.token whole]
  exact Compact.parts?_joined (Base64Url.dot_not_mem_encode _) (Base64Url.dot_not_mem_encode _)

/-- Claims that are found under the message of an issued token are what it was issued with. -/
theorem issuedWith_of_message?
    (issues : codec.issue algorithm issued.tokenId issued.userId custom now = .ok issued)
    (same : Compact.message? token = Compact.message? issued.token)
    (found : Compact.payloadClaims? token = some claims) : codec.IssuedWith issued claims := by
  obtain ⟨signature, split⟩ := parts?_of_issue issues
  obtain ⟨parts, split', read⟩ := Compact.payloadClaims?_eq_some_iff.1 found
  obtain ⟨-, payload⟩ := Compact.eq_of_message?_eq split' split same
  rw [payload] at read
  obtain ⟨bytes, decoded, parsed⟩ := Compact.parse?_of_claimsOf read
  obtain rfl := Except.ok.inj ((Base64Url.decodeText_encode _).symm.trans decoded)
  obtain ⟨registered, issuedAt, expires⟩ := Claims.eq_of_parse?_render rfl parsed
  refine ⟨algorithm, custom, now, issues, registered, fun plain => ?_⟩
  have whole := Compact.claimsOf_encode rfl plain.stripReserved
    (fun m mem => Claims.not_reserved_of_mem mem) issuedAt expires
  exact Except.ok.inj (read.symm.trans whole)

end TokenCodec

end Latchkey

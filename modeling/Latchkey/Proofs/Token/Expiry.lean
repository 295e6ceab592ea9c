import Latchkey.Proofs.Ledger.Aging
import Latchkey.Proofs.Token.Genuine
import Latchkey.Proofs.Token.Message

set_option autoImplicit false

/-! # When a token expires

The expiry of a token is worked out three times: for the holder, for the ledger, where it would stop
at the latest instant, and in whole seconds for the claims that are signed. All three are the time
of issue and the lifetime (`TokenCodec.agrees_of_issue`), so whoever looks at one of them is right
about the others (`TokenCodec.verified_before_expiry`, `TokenCodec.verify_ne_expired`). -/

namespace Latchkey

/-- A token that was issued now, the claims signed into it and its record say the same. -/
structure TokenCodec.Agrees (codec : TokenCodec) (now : Instant) (issued : IssuedToken)
    (claims : Claims) (record : LedgerRecord) : Prop where
  id : record.id = issued.tokenId
  tokenId : claims.tokenId = issued.tokenId.toText
  owner : record.userId = issued.userId
  subject : claims.subject = some issued.userId.toText
  createdAt : record.createdAt = now
  issuedAt : claims.issuedAt = now.seconds
  inRange : now.add? codec.span = some issued.expiresAt
  exact : issued.expiresAt.total = now.total + codec.lifetime * Instant.nanosPerSecond
  recorded : record.expiresAt = issued.expiresAt
  signed : claims.expiresAt = issued.expiresAt.seconds

/-- A record that ages goes on to agree. -/
theorem TokenCodec.Agrees.ages {codec : TokenCodec} {now : Instant} {issued : IssuedToken}
    {claims : Claims} {record later : LedgerRecord} (h : codec.Agrees now issued claims record)
    (ages : record.Ages later) : codec.Agrees now issued claims later := by
  rcases ages with rfl | rfl
  · exact h
  · exact { h with }

/-- The claims of a token that opens are those of its payload. -/
theorem Compact.payloadClaims?_of_opened {algorithm : KeyAlgorithm} {token : String}
    {claims : Claims} (opens : opened algorithm token = .ok claims) :
    payloadClaims? token = some claims := by
  obtain ⟨parts, -, split, -, -, -, parsed⟩ := opened_eq_ok_iff.1 opens
  exact payloadClaims?_eq_some_iff.2 ⟨parts, split, parsed⟩

namespace TokenCodec

variable {codec other : TokenCodec} {algorithm : KeyAlgorithm} {tokenId userId : Uuid}
  {custom : Json.Members} {now later : Instant} {second : Int} {issued : IssuedToken}
  {claims : Claims}

/-- What is issued agrees with the record that is made of it. -/
theorem agrees_of_issue
    (issues : codec.issue algorithm issued.tokenId issued.userId custom now = .ok issued) :
    codec.Agrees now issued (codec.claimsOf custom now issued)
      (.issue issued.tokenId issued.userId now codec.span) := by
  obtain ⟨expiresAt, token, added, -, whole⟩ := issue_eq_ok_iff.1 issues
  rw [show expiresAt = issued.expiresAt by rw [whole]] at added
  refine ⟨rfl, rfl, rfl, rfl, rfl, rfl, added, ?_, Instant.addSaturating_of_add? added, rfl⟩
  simpa [span] using (Instant.total_of_add? added).1

/-- The claims that agree are the ones that were signed. -/
theorem write_of_issue
    (issues : codec.issue algorithm issued.tokenId issued.userId custom now = .ok issued) :
    Compact.write algorithm (codec.claimsOf custom now issued) = .ok issued.token := by
  obtain ⟨expiresAt, token, -, written, whole⟩ := issue_eq_ok_iff.1 issues
  rw [whole]
  exact written

/-- What is read out of an issued token is what was signed, but perhaps for custom claims. -/
theorem registered_of_payloadClaims?
    (issues : codec.issue algorithm issued.tokenId issued.userId custom now = .ok issued)
    (read : Compact.payloadClaims? issued.token = some claims) :
    claims = { codec.claimsOf custom now issued with custom := claims.custom } := by
  obtain ⟨signature, split⟩ := parts?_of_issue issues
  obtain ⟨parts, split', read⟩ := Compact.payloadClaims?_eq_some_iff.1 read
  obtain rfl := Option.some.inj (split.symm.trans split')
  obtain ⟨bytes, decoded, parsed⟩ := Compact.parse?_of_claimsOf read
  obtain rfl := Except.ok.inj ((Base64Url.decodeText_encode _).symm.trans decoded)
  exact (Claims.eq_of_parse?_render rfl parsed).1

/-- A token is not accepted once it has expired, by no key and whatever the wall clock says. -/
theorem verified_before_expiry
    (issues : codec.issue algorithm issued.tokenId issued.userId custom now = .ok issued)
    {key : KeyAlgorithm} (verified : codec.verify key issued.token later second = .ok claims) :
    later < issued.expiresAt := by
  obtain ⟨-, -, fresh⟩ := verify_eq_ok_iff.1 verified
  rw [Claims.isExpiredAt, registered_of_payloadClaims? issues (payloadClaims?_of_verify verified)]
    at fresh
  exact .inl (Int.not_le.1 (of_decide_eq_false fresh))

/-- While a whole second is left, the token is not rejected as expired. -/
theorem verify_ne_expired
    (issues : codec.issue algorithm issued.tokenId issued.userId custom now = .ok issued)
    (key : KeyAlgorithm) (left : later.seconds < issued.expiresAt.seconds) :
    codec.verify key issued.token later later.seconds ≠ .error (.verification .expired) := by
  intro expired
  obtain ⟨-, claims, opens, -, past⟩ := verify_eq_expired_iff.1 expired
  rw [registered_of_payloadClaims? issues (Compact.payloadClaims?_of_opened opens)] at past
  simp only [claimsOf, claimsFor] at past
  omega

/-- While the holder is told that a whole second is left, the second of expiry is yet to come. -/
theorem seconds_lt_of_expiresIn
    (issues : codec.issue algorithm issued.tokenId issued.userId custom now = .ok issued)
    (left : 1 ≤ issued.expiresIn later) : later.seconds < issued.expiresAt.seconds := by
  have proper := (Instant.total_of_add? (agrees_of_issue issues).inRange).2
  refine Instant.seconds_lt_of_secondsUntil proper ?_
  simp only [IssuedToken.expiresIn] at left
  omega

end TokenCodec

end Latchkey

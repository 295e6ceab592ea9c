import Latchkey.Token.Codec

set_option autoImplicit false

/-! # What passes the checks

Checking and verifying a token are rows of tests; here each row is taken apart once, so that nothing
else has to (`Compact.check_eq_ok_iff`, `TokenCodec.verify_eq_ok_iff`). The claims are checked last,
once a token is opened (`Compact.opened_eq_ok_iff`). A token also names a record and a user,
whatever its signature is worth; a token that verifies means these. -/

namespace Latchkey

/-- A chain of two steps succeeds if both do. -/
theorem except_bind_eq_ok_iff {ε α β : Type} {x : Except ε α} {f : α → Except ε β} {b : β} :
    x.bind f = .ok b ↔ ∃ a, x = .ok a ∧ f a = .ok b := by
  cases x with
  | error e => simp [Except.bind]
  | ok a => simp [Except.bind]

/-- A chain of two steps fails where one of them does. -/
theorem except_bind_eq_error_iff {ε α β : Type} {x : Except ε α} {f : α → Except ε β} {e : ε} :
    x.bind f = .error e ↔ x = .error e ∨ ∃ a, x = .ok a ∧ f a = .error e := by
  cases x with
  | error e' => simp [Except.bind]
  | ok a => simp [Except.bind]

/-! ## Algorithms -/

namespace KeyAlgorithm

variable {algorithm : KeyAlgorithm} {message : Bytes} {signature : String}

/-- How a key signs does not depend on what it signs. -/
theorem sign_eq_ok_iff : algorithm.sign message = .ok signature
    ↔ ∃ signer, algorithm.signing.signer algorithm.name = .ok signer
      ∧ signature = Base64Url.encode (signer message) := by
  unfold sign
  cases algorithm.signing.signer algorithm.name <;> simp [Except.map, eq_comm]

/-- A key that does not sign gives the same reason for every message. -/
theorem sign_eq_error_iff {r : Rejection} : algorithm.sign message = .error r
    ↔ algorithm.signing.signer algorithm.name = .error r := by
  unfold sign
  cases algorithm.signing.signer algorithm.name <;> simp [Except.map]

/-- A key accepts signatures only under an algorithm of its own family. -/
theorem family_of_accepts (accepted : algorithm.accepts message signature = .ok true) :
    algorithm.checking.family = algorithm.name.family := by
  unfold accepts at accepted
  split at accepted
  case h_5 => simp at accepted
  all_goals
    rename_i family half
    rw [family, half]
    rfl

end KeyAlgorithm

namespace Compact

/-! ## Checking -/

/-- The claims of a token whose signature is accepted. -/
def opened (algorithm : KeyAlgorithm) (token : String) : Except Rejection Claims := do
  if algorithm.checking.family ≠ algorithm.name.family then .error .invalidAlgorithm
  let some parts := parts? token | .error .invalidToken
  let header ← headerOf parts.header
  if header.algorithm ≠ algorithm.name then .error .invalidAlgorithm
  let message := Bytes.ofText (signedText parts.header parts.payload)
  if !(← algorithm.accepts message parts.signature) then .error .invalidSignature
  claimsOf parts.payload

theorem check_eq_bind (algorithm : KeyAlgorithm) (issuer audience : String) (second : Int)
    (token : String) :
    check algorithm issuer audience second token
      = (opened algorithm token).bind fun claims =>
        (checkClaims issuer audience second claims).map fun _ => claims := by
  unfold check opened
  by_cases fits : algorithm.checking.family = algorithm.name.family
  case neg =>
    rw [if_pos fits, if_pos fits]
    rfl
  rw [if_neg (Classical.not_not.2 fits), if_neg (Classical.not_not.2 fits)]
  cases parts? token with
  | none => rfl
  | some parts =>
    simp only [bind, pure, Except.pure]
    cases headerOf parts.header with
    | error r => rfl
    | ok header =>
      simp only [Except.bind]
      by_cases named : header.algorithm = algorithm.name
      · rw [if_neg (Classical.not_not.2 named), if_neg (Classical.not_not.2 named)]
        cases algorithm.accepts (Bytes.ofText (signedText parts.header parts.payload))
            parts.signature with
        | error r => rfl
        | ok accepted => cases accepted <;> cases claimsOf parts.payload <;> rfl
      · rw [if_pos named, if_pos named]

theorem opened_eq_ok_iff {algorithm : KeyAlgorithm} {token : String} {claims : Claims} :
    opened algorithm token = .ok claims
      ↔ ∃ parts header, parts? token = some parts ∧ headerOf parts.header = .ok header
        ∧ header.algorithm = algorithm.name
        ∧ algorithm.accepts (Bytes.ofText (signedText parts.header parts.payload))
            parts.signature = .ok true
        ∧ claimsOf parts.payload = .ok claims := by
  unfold opened
  by_cases fits : algorithm.checking.family = algorithm.name.family
  case neg =>
    rw [if_pos fits]
    constructor
    · intro h
      simp [bind, Except.bind] at h
    · rintro ⟨_, _, -, -, -, signed, -⟩
      exact absurd (KeyAlgorithm.family_of_accepts signed) fits
  rw [if_neg (Classical.not_not.2 fits)]
  cases split : parts? token with
  | none => simp
  | some parts =>
    simp only [bind, Option.some.injEq, exists_and_left, exists_eq_left']
    constructor
    · intro h
      obtain ⟨header, read, h⟩ := except_bind_eq_ok_iff.1 h
      by_cases named : header.algorithm = algorithm.name
      · rw [if_neg (Classical.not_not.2 named)] at h
        obtain ⟨accepted, signed, h⟩ := except_bind_eq_ok_iff.1 h
        cases accepted with
        | false => simp [Except.bind] at h
        | true => exact ⟨header, read, named, signed, h⟩
      · simp [named, Except.bind] at h
    · rintro ⟨header, read, named, signed, parsed⟩
      simp [read, named, signed, parsed, Except.bind]

/-- What passes is opened first, and then its claims are checked. -/
theorem check_eq_ok_iff_opened {algorithm : KeyAlgorithm} {issuer audience token : String}
    {second : Int} {claims : Claims} :
    check algorithm issuer audience second token = .ok claims
      ↔ opened algorithm token = .ok claims
        ∧ checkClaims issuer audience second claims = .ok () := by
  rw [check_eq_bind, except_bind_eq_ok_iff]
  constructor
  · rintro ⟨found, opens, passes⟩
    cases passed : checkClaims issuer audience second found with
    | error r => simp [passed, Except.map] at passes
    | ok _ =>
      rw [passed] at passes
      obtain rfl := Except.ok.inj passes
      exact ⟨opens, passed⟩
  · rintro ⟨opens, passed⟩
    refine ⟨claims, opens, ?_⟩
    rw [passed]
    rfl

theorem check_eq_ok_iff {algorithm : KeyAlgorithm} {issuer audience token : String} {second : Int}
    {claims : Claims} :
    check algorithm issuer audience second token = .ok claims
      ↔ ∃ parts header, parts? token = some parts ∧ headerOf parts.header = .ok header
        ∧ header.algorithm = algorithm.name
        ∧ algorithm.accepts (Bytes.ofText (signedText parts.header parts.payload))
            parts.signature = .ok true
        ∧ claimsOf parts.payload = .ok claims
        ∧ checkClaims issuer audience second claims = .ok () := by
  rw [check_eq_ok_iff_opened, opened_eq_ok_iff]
  constructor
  · rintro ⟨⟨parts, header, split, read, named, signed, parsed⟩, passed⟩
    exact ⟨parts, header, split, read, named, signed, parsed, passed⟩
  · rintro ⟨parts, header, split, read, named, signed, parsed, passed⟩
    exact ⟨⟨parts, header, split, read, named, signed, parsed⟩, passed⟩

theorem checkClaims_eq_ok_iff {issuer audience : String} {second : Int} {claims : Claims} :
    checkClaims issuer audience second claims = .ok ()
      ↔ claims.issuer = issuer ∧ claims.audience = audience ∧ 0 ≤ claims.expiresAt
        ∧ second ≤ claims.expiresAt := by
  unfold checkClaims
  by_cases negative : claims.expiresAt < 0
  · simp [negative, Int.not_le.2 negative]
  by_cases past : claims.expiresAt < second
  · simp [negative, past, Int.not_le.2 past]
  by_cases issued : claims.issuer = issuer <;> by_cases meant : claims.audience = audience
    <;> simp [negative, past, issued, meant, Int.not_lt.1 negative, Int.not_lt.1 past]

/-! ## What a token names -/

/-- The claims in a token's payload, whatever its signature. -/
def payloadClaims? (token : String) : Option Claims :=
  (parts? token).bind fun parts => (claimsOf parts.payload).toOption

theorem payloadClaims?_eq_some_iff {token : String} {claims : Claims} :
    payloadClaims? token = some claims
      ↔ ∃ parts, parts? token = some parts ∧ claimsOf parts.payload = .ok claims := by
  refine Option.bind_eq_some_iff.trans (exists_congr fun parts => and_congr_right fun _ => ?_)
  cases claimsOf parts.payload <;> simp [Except.toOption]

/-- The record that a token names. -/
def recordOf? (token : String) : Option Uuid :=
  (payloadClaims? token).bind fun claims => claims.recordId.toOption

/-- The user that a token names. -/
def userOf? (token : String) : Option Uuid :=
  (payloadClaims? token).bind fun claims => claims.userId.toOption

end Compact

namespace Claims

variable {claims : Claims} {claim text : String} {id : Uuid}

theorem identifier_eq_ok_iff : identifier claim text = .ok id ↔ Uuid.parse text = .ok id := by
  unfold identifier
  cases Uuid.parse text <;> simp

theorem userId_eq_ok_iff :
    claims.userId = .ok id ↔ ∃ text, claims.subject = some text ∧ Uuid.parse text = .ok id := by
  unfold userId
  cases claims.subject <;> simp [identifier_eq_ok_iff]

theorem recordId_eq_ok_iff : claims.recordId = .ok id ↔ Uuid.parse claims.tokenId = .ok id :=
  identifier_eq_ok_iff

end Claims

namespace TokenCodec

/-! ## Verifying -/

theorem verify_eq_ok_iff {codec : TokenCodec} {algorithm : KeyAlgorithm} {token : String}
    {now : Instant} {second : Int} {claims : Claims} :
    codec.verify algorithm token now second = .ok claims
      ↔ (∃ header, Compact.readHeader token = .ok header ∧ header.keyId = some algorithm.keyId)
        ∧ Compact.check algorithm codec.issuer codec.audience second token = .ok claims
        ∧ claims.isExpiredAt now.seconds = false := by
  unfold verify
  cases read : Compact.readHeader token with
  | error r => simp [rejected]
  | ok header =>
    by_cases named : header.keyId = some algorithm.keyId
    · cases checked : Compact.check algorithm codec.issuer codec.audience second token with
      | error r => simp [named, rejected]
      | ok found =>
        cases expired : found.isExpiredAt now.seconds with
        | true =>
          simp only [named, expired, ne_eq, not_true, if_false, if_true, reduceCtorEq, false_iff]
          rintro ⟨-, same, fresh⟩
          obtain rfl := Except.ok.inj same
          simp [expired] at fresh
        | false =>
          simp only [named, expired, ne_eq, not_true, if_false, Bool.false_eq_true,
            Except.ok.injEq, exists_eq_left', true_and]
          refine ⟨fun same => ⟨same, same ▸ expired⟩, fun ⟨same, _⟩ => same⟩
    · simp [named]

theorem payloadClaims?_of_verify {codec : TokenCodec} {algorithm : KeyAlgorithm} {token : String}
    {now : Instant} {second : Int} {claims : Claims}
    (verified : codec.verify algorithm token now second = .ok claims) :
    Compact.payloadClaims? token = some claims := by
  obtain ⟨-, checked, -⟩ := verify_eq_ok_iff.1 verified
  obtain ⟨parts, -, split, -, -, -, parsed, -⟩ := Compact.check_eq_ok_iff.1 checked
  exact Compact.payloadClaims?_eq_some_iff.2 ⟨parts, split, parsed⟩

/-! ## Issuing -/

theorem issue_eq_ok_iff {codec : TokenCodec} {algorithm : KeyAlgorithm} {tokenId userId : Uuid}
    {custom : Json.Members} {now : Instant} {issued : IssuedToken} :
    codec.issue algorithm tokenId userId custom now = .ok issued
      ↔ ∃ expiresAt token, now.add? codec.span = some expiresAt
        ∧ Compact.write algorithm (codec.claimsFor tokenId userId custom now expiresAt) = .ok token
        ∧ issued = ⟨token, tokenId, algorithm.keyId, userId, expiresAt⟩ := by
  unfold issue
  cases now.add? codec.span with
  | none => simp
  | some expiresAt =>
    cases written : Compact.write algorithm
        (codec.claimsFor tokenId userId custom now expiresAt) with
    | error r => simp [written]
    | ok token =>
      simp only [written, Except.ok.injEq, Option.some.injEq, exists_and_left, exists_eq_left']
      exact eq_comm

/-- A token is issued under its identifier and for its user. -/
theorem ids_of_issue {codec : TokenCodec} {algorithm : KeyAlgorithm} {tokenId userId : Uuid}
    {custom : Json.Members} {now : Instant} {issued : IssuedToken}
    (issues : codec.issue algorithm tokenId userId custom now = .ok issued) :
    issued.tokenId = tokenId ∧ issued.userId = userId := by
  obtain ⟨_, _, -, -, rfl⟩ := issue_eq_ok_iff.1 issues
  exact ⟨rfl, rfl⟩

/-- A token expires when its lifetime is over. -/
theorem expiresAt_of_issue {codec : TokenCodec} {algorithm : KeyAlgorithm} {tokenId userId : Uuid}
    {custom : Json.Members} {now expiresAt : Instant} {issued : IssuedToken}
    (issues : codec.issue algorithm tokenId userId custom now = .ok issued)
    (added : now.add? codec.span = some expiresAt) : issued.expiresAt = expiresAt := by
  obtain ⟨_, _, added', -, rfl⟩ := issue_eq_ok_iff.1 issues
  exact Option.some.inj (added'.symm.trans added)

end TokenCodec

end Latchkey

import Latchkey.Proofs.Bytes.Base64Url
import Latchkey.Proofs.Token.Issued

set_option autoImplicit false

/-! # Which tokens are accepted

A token is genuine if it is three strict base64 texts with dots between them, its header names the
algorithm and the key, the signature is one of the first two parts under that key, and the payload
writes claims of the right issuer for the right audience. Verification accepts the genuine tokens
that have not expired, and nothing else (`TokenCodec.accepts_genuine`). -/

namespace Latchkey

namespace KeyAlgorithm

/-- The checking half of a key verifies a signature of a message. -/
def Verifies (a : KeyAlgorithm) (message signature : Bytes) : Prop :=
  match a.name.family, a.checking with
  | .hmac, .hmac secret => signature = a.name.code secret message
  | .ed, .ed point => Ed25519.verify point message signature = true
  | .rsa, .rsa verifies => verifies a.name message signature = true
  | .ec, .ec verifies => verifies a.name message signature = true
  | _, _ => False

/-- What is judged as bytes is the strict text of these. -/
theorem judge_eq_ok_true_iff {verifies : Bytes → Bool} {text : String} :
    judge verifies text = .ok true
      ↔ ∃ signature, text = Base64Url.encode signature ∧ verifies signature = true := by
  unfold judge
  rcases Base64Url.eq_encode_or text with ⟨bytes, rfl⟩ | ⟨⟨cause, read⟩, none⟩
  · simp [Base64Url.decodeText_encode]
  · simp [read, none]

/-- A signature is accepted as it stands in a token if it is the strict text of one that
    verifies. -/
theorem accepts_eq_ok_true_iff {a : KeyAlgorithm} {message : Bytes} {text : String} :
    a.accepts message text = .ok true
      ↔ ∃ signature, text = Base64Url.encode signature ∧ a.Verifies message signature := by
  unfold accepts Verifies
  cases a.name.family <;> cases a.checking <;> simp [judge_eq_ok_true_iff]

end KeyAlgorithm

/-! ## The parts of a token -/

namespace Compact

variable {token part : String} {header payload signature : Bytes}

theorem parts?_encode_iff :
    parts? token
        = some ⟨Base64Url.encode header, Base64Url.encode payload, Base64Url.encode signature⟩
      ↔ token = joined (Base64Url.encode header) (Base64Url.encode payload)
        (Base64Url.encode signature) := by
  constructor
  · exact fun split => (parts?_eq_some split).1
  · rintro rfl
    exact parts?_joined (Base64Url.dot_not_mem_encode _) (Base64Url.dot_not_mem_encode _)

theorem count_dot_joined :
    (joined (Base64Url.encode header) (Base64Url.encode payload)
      (Base64Url.encode signature)).toList.count '.' = 2 := by
  have none (bytes : Bytes) : (Base64Url.encode bytes).toList.count '.' = 0 :=
    List.count_eq_zero.2 (Base64Url.dot_not_mem_encode bytes)
  simp [toList_joined, none]

theorem headerOf_eq_ok_iff {found : Header} :
    headerOf part = .ok found
      ↔ ∃ bytes, part = Base64Url.encode bytes
        ∧ (Json.Tree.parse? bytes).bind Header.ofTree? = some found := by
  unfold headerOf
  rcases Base64Url.eq_encode_or part with ⟨bytes, rfl⟩ | ⟨⟨cause, read⟩, none⟩
  · simp only [Base64Url.decodeText_encode, Base64Url.encode_inj, exists_eq_left']
    split
    · rename_i header parsed
      simp [parsed]
    · rename_i parsed
      simp [parsed]
  · simp [read, none]

/-- A token's payload is an object with a member `nbf`. -/
def CarriesNotBefore (token : String) : Prop :=
  ∃ parts payload members fields tree, parts? token = some parts
    ∧ Base64Url.decodeText parts.payload = .ok payload
    ∧ Json.Tree.parse? payload = some (.object members)
    ∧ Json.namedMembers? members = some fields ∧ ("nbf", tree) ∈ fields

/-- Claims without such a member have nothing that cannot be passed over. -/
theorem passesOver_of_absent {tree : Json.Tree} {claims : Claims}
    (read : Claims.ofTree? tree = some claims)
    (absent : ∀ members fields value, tree = .object members →
      Json.namedMembers? members = some fields → ("nbf", value) ∉ fields) :
    passesOver tree = true := by
  cases tree with
  | object members =>
    simp only [Claims.ofTree?, Option.bind_eq_bind, Option.bind_eq_some_iff] at read
    obtain ⟨fields, named, -⟩ := read
    have none : (fields.filter fun field => ["nbf"].contains field.1) = [] := by
      refine List.filter_eq_nil_iff.2 fun field mem => ?_
      obtain ⟨name, value⟩ := field
      have differs : name ≠ "nbf" := fun same => absent members fields value rfl named (same ▸ mem)
      simpa using differs
    have known : Json.objectFields? ["nbf"] members = some [] := by
      simp only [Json.objectFields?, named, bind, Option.bind_some, none]
      rfl
    simp only [passesOver, known]
    rfl
  | null | bool _ | number _ | string _ | array _ => simp [Claims.ofTree?] at read

theorem claimsOf_eq_ok_iff {claims : Claims} :
    claimsOf part = .ok claims
      ↔ ∃ bytes tree, part = Base64Url.encode bytes ∧ Json.Tree.parse? bytes = some tree
        ∧ Claims.ofTree? tree = some claims ∧ passesOver tree = true := by
  unfold claimsOf
  rcases Base64Url.eq_encode_or part with ⟨bytes, rfl⟩ | ⟨⟨cause, read⟩, none⟩
  · simp only [Base64Url.decodeText_encode, Base64Url.encode_inj, exists_and_left, exists_eq_left']
    cases parsed : Json.Tree.parse? bytes with
    | none => simp
    | some tree =>
      cases read : Claims.ofTree? tree with
      | none => simp [read]
      | some found => cases passes : passesOver tree <;> simp [read, passes]
  · simp [read, none]

/-! ## Tokens that do not open -/

variable {algorithm : KeyAlgorithm} {r : Rejection}

theorem malformed_of_headerOf (refused : headerOf part = .error r) :
    r.toVerificationError = .malformed r.message := by
  unfold headerOf at refused
  split at refused
  · cases refused
    rfl
  · split at refused <;> cases refused
    rfl

theorem malformed_of_readHeader (refused : readHeader token = .error r) :
    r.toVerificationError = .malformed r.message := by
  unfold readHeader at refused
  split at refused
  · exact malformed_of_headerOf refused
  · cases refused
    rfl

theorem malformed_of_judge {verifies : Bytes → Bool} {signature : String}
    (refused : KeyAlgorithm.judge verifies signature = .error r) :
    r.toVerificationError = .malformed r.message := by
  unfold KeyAlgorithm.judge at refused
  split at refused <;> cases refused
  rfl

theorem malformed_of_accepts {message : Bytes} {signature : String}
    (refused : algorithm.accepts message signature = .error r) :
    r.toVerificationError = .malformed r.message := by
  unfold KeyAlgorithm.accepts at refused
  split at refused
  · cases refused
  · exact malformed_of_judge refused
  · exact malformed_of_judge refused
  · exact malformed_of_judge refused
  · cases refused
    rfl

theorem malformed_of_claimsOf (refused : claimsOf part = .error r) :
    r.toVerificationError = .malformed r.message := by
  unfold claimsOf at refused
  repeat' split at refused
  all_goals cases refused <;> rfl

/-- A token that does not even open is a malformed one, unless it is only its signature that is
    wrong. -/
theorem invalidSignature_or_malformed_of_opened (refused : opened algorithm token = .error r) :
    r = .invalidSignature ∨ r.toVerificationError = .malformed r.message := by
  unfold opened at refused
  by_cases fits : algorithm.checking.family = algorithm.name.family
  case neg =>
    rw [if_pos fits] at refused
    cases refused
    exact .inr rfl
  rw [if_neg (Classical.not_not.2 fits)] at refused
  split at refused
  · rename_i parts split
    rcases except_bind_eq_error_iff.1 refused with unread | ⟨header, -, refused⟩
    · exact .inr (malformed_of_headerOf unread)
    split at refused
    · cases refused
      exact .inr rfl
    rcases except_bind_eq_error_iff.1 refused with unread | ⟨accepted, -, refused⟩
    · exact .inr (malformed_of_accepts unread)
    split at refused
    · cases refused
      exact .inl rfl
    · exact .inr (malformed_of_claimsOf refused)
  · cases refused
    exact .inr rfl

theorem checkClaims_eq_expired_iff {issuer audience : String} {second : Int} {claims : Claims} :
    (∃ r, checkClaims issuer audience second claims = .error r ∧ r.toVerificationError = .expired)
      ↔ 0 ≤ claims.expiresAt ∧ claims.expiresAt < second := by
  unfold checkClaims
  by_cases negative : claims.expiresAt < 0
  · simp [negative, Int.not_le.2 negative, Rejection.toVerificationError]
  by_cases past : claims.expiresAt < second
  · simp [negative, past, Int.not_lt.1 negative, Rejection.toVerificationError]
  by_cases issued : claims.issuer = issuer <;> by_cases meant : claims.audience = audience
    <;> simp [negative, past, issued, meant, Rejection.toVerificationError]

end Compact

namespace TokenCodec

variable {codec : TokenCodec} {algorithm : KeyAlgorithm} {token : String} {claims : Claims}
  {now : Instant} {second : Int}

/-- A genuine token of the codec's issuer for its audience, under the algorithm's key: strict base64
    texts of a header that names the algorithm and the key, of a payload that writes these claims
    and of a signature of exactly the two texts before it. -/
def Genuine (codec : TokenCodec) (algorithm : KeyAlgorithm) (token : String) (claims : Claims) :
    Prop :=
  ∃ header payload signature : Bytes,
    token = Compact.joined (Base64Url.encode header) (Base64Url.encode payload)
        (Base64Url.encode signature)
      ∧ (Json.Tree.parse? header).bind Header.ofTree?
        = some ⟨algorithm.name, some algorithm.keyId⟩
      ∧ algorithm.Verifies
        (Bytes.ofText (Compact.signedText (Base64Url.encode header) (Base64Url.encode payload)))
        signature
      ∧ Claims.parse? payload = some claims
      ∧ claims.issuer = codec.issuer ∧ claims.audience = codec.audience

theorem verify_eq_ok_iff_genuine (plain : ¬ Compact.CarriesNotBefore token) :
    codec.verify algorithm token now second = .ok claims
      ↔ codec.Genuine algorithm token claims ∧ 0 ≤ claims.expiresAt
        ∧ second ≤ claims.expiresAt ∧ now.seconds < claims.expiresAt := by
  rw [verify_eq_ok_iff, Compact.check_eq_ok_iff]
  constructor
  · rintro ⟨⟨header, found, named⟩, ⟨⟨first, second, third⟩, header', split, read, name, accepted,
      parsed, passed⟩, fresh⟩
    obtain rfl : header' = header := by
      rw [Compact.readHeader, split] at found
      exact Except.ok.inj (read.symm.trans found)
    obtain ⟨header, rfl, written⟩ := Compact.headerOf_eq_ok_iff.1 read
    obtain ⟨payload, tree, rfl, json, claimed, -⟩ := Compact.claimsOf_eq_ok_iff.1 parsed
    obtain ⟨signature, rfl, verifies⟩ := KeyAlgorithm.accepts_eq_ok_true_iff.1 accepted
    obtain ⟨issuer, audience, positive, current⟩ := Compact.checkClaims_eq_ok_iff.1 passed
    refine ⟨⟨header, payload, signature, Compact.parts?_encode_iff.1 split, ?_, verifies, ?_,
      issuer, audience⟩, positive, current, Int.not_le.1 (of_decide_eq_false fresh)⟩
    · rw [written, ← name, ← named]
    · rw [Claims.parse?, json]
      exact claimed
  · rintro ⟨⟨header, payload, signature, whole, written, verifies, claimed, issuer, audience⟩,
      positive, current, fresh⟩
    have split := Compact.parts?_encode_iff.2 whole
    have read := Compact.headerOf_eq_ok_iff.2 ⟨header, rfl, written⟩
    have accepted := KeyAlgorithm.accepts_eq_ok_true_iff.2 ⟨signature, rfl, verifies⟩
    obtain ⟨tree, json, claimed⟩ := Option.bind_eq_some_iff.1 claimed
    have passes : Compact.passesOver tree = true := by
      refine Compact.passesOver_of_absent claimed fun members fields value object named mem => ?_
      exact plain ⟨_, payload, members, fields, value, split, Base64Url.decodeText_encode _,
        object ▸ json, named, mem⟩
    have parsed := Compact.claimsOf_eq_ok_iff.2 ⟨payload, tree, rfl, json, claimed, passes⟩
    have passed := Compact.checkClaims_eq_ok_iff.2 ⟨issuer, audience, positive, current⟩
    have found : Compact.readHeader token = .ok ⟨algorithm.name, some algorithm.keyId⟩ := by
      rw [Compact.readHeader, split]
      exact read
    exact ⟨⟨_, found, rfl⟩, ⟨_, _, split, read, rfl, accepted, parsed, passed⟩,
      decide_eq_false (Int.not_le.2 fresh)⟩

/-- A token is rejected as expired if it opens and either clock has passed its last second. The
    caller's clock counts only once the issuer and the audience are right. -/
theorem verify_eq_expired_iff :
    codec.verify algorithm token now second = .error (.verification .expired)
      ↔ (∃ header, Compact.readHeader token = .ok header
          ∧ header.keyId = some algorithm.keyId)
        ∧ ∃ claims, Compact.opened algorithm token = .ok claims ∧ 0 ≤ claims.expiresAt
          ∧ (claims.expiresAt < second
            ∨ claims.issuer = codec.issuer ∧ claims.audience = codec.audience
              ∧ claims.expiresAt ≤ now.seconds) := by
  unfold verify
  cases read : Compact.readHeader token with
  | error r => simp [rejected, Compact.malformed_of_readHeader read]
  | ok header =>
    by_cases named : header.keyId = some algorithm.keyId
    · simp only [named, ne_eq, not_true, if_false, Except.ok.injEq, exists_eq_left', true_and,
        Compact.check_eq_bind]
      cases opened : Compact.opened algorithm token with
      | error r =>
        have differs : r.toVerificationError ≠ .expired := by
          rcases Compact.invalidSignature_or_malformed_of_opened opened with rfl | malformed
          · simp [Rejection.toVerificationError]
          · simp [malformed]
        simp [Except.bind, rejected, differs]
      | ok claims =>
        simp only [Except.bind, Except.ok.injEq, exists_eq_left']
        have outrun : (∃ r, Compact.checkClaims codec.issuer codec.audience second claims = .error r
            ∧ r.toVerificationError = .expired) ↔ _ := Compact.checkClaims_eq_expired_iff
        have passes : Compact.checkClaims codec.issuer codec.audience second claims = .ok () ↔ _ :=
          Compact.checkClaims_eq_ok_iff
        cases checked : Compact.checkClaims codec.issuer codec.audience second claims with
        | error r =>
          have failed := mt passes.2 (by simp [checked])
          simp only [checked, Except.error.injEq, exists_eq_left'] at outrun
          simp only [Except.map, rejected, Except.error.injEq, Error.verification.injEq, outrun]
          refine and_congr_right fun positive => ⟨.inl, ?_⟩
          rintro (past | ⟨issuer, audience, -⟩)
          · exact past
          · exact Int.not_le.1 fun current => failed ⟨issuer, audience, positive, current⟩
        | ok _ =>
          obtain ⟨issuer, audience, positive, current⟩ := passes.1 checked
          simp [Except.map, Claims.isExpiredAt, issuer, audience, positive, Int.not_lt.2 current]
    · simp [named, Error.malformed]

/-- The codec issues no token with a member `nbf`. -/
theorem not_carriesNotBefore {tokenId userId : Uuid} {custom : Json.Members} {issued : IssuedToken}
    (issues : codec.issue algorithm tokenId userId custom now = .ok issued)
    (plain : Claims.Plain custom) : ¬ Compact.CarriesNotBefore issued.token := by
  rintro ⟨parts, payload, members, fields, tree, split, decoded, parsed, named, mem⟩
  obtain ⟨expiresAt, token, -, written, rfl⟩ := issue_eq_ok_iff.1 issues
  obtain ⟨signature, signed, rfl⟩ := Compact.write_eq_ok_iff.1 written
  obtain ⟨bytes, rfl⟩ := Compact.sign_eq_ok signed
  obtain rfl := Option.some.inj ((Compact.parts?_encode_iff.2 rfl).symm.trans split)
  obtain rfl := Except.ok.inj ((Base64Url.decodeText_encode _).symm.trans decoded)
  rw [Claims.parse?_render plain.stripReserved.exact, Json.treeOf] at parsed
  obtain rfl := Json.Tree.object.inj (Option.some.inj parsed)
  obtain rfl := Option.some.inj ((Json.namedMembers?_membersOf _).symm.trans named)
  obtain ⟨m, mem, same⟩ := List.mem_map.1 mem
  have name : m.1 = "nbf" := congrArg Prod.fst same
  rw [Claims.members_eq rfl] at mem
  rcases List.mem_append.1 mem with mem | mem
  · simp only [Claims.registered, List.mem_cons, List.not_mem_nil, or_false] at mem
    rcases mem with rfl | rfl | rfl | rfl | rfl | rfl <;> simp at name
  · have := Claims.not_reserved_of_mem mem
    rw [name] at this
    simp [Claims.reservedNames] at this

/-- Verification accepts the genuine tokens that neither clock has outrun, and nothing else. So a
    token that is accepted was accepted at all earlier clocks, and one that is rejected as expired
    is rejected as that at all later ones. Tokens with a member `nbf` are left out, whose form is
    looked at though its value is not. -/
theorem accepts_genuine (codec : TokenCodec) (algorithm : KeyAlgorithm) (token : String)
    (plain : ¬ Compact.CarriesNotBefore token) (now : Instant) (second : Int) :
    (∀ claims, codec.verify algorithm token now second = .ok claims
        ↔ token.toList.count '.' = 2 ∧ codec.Genuine algorithm token claims
          ∧ 0 ≤ claims.expiresAt ∧ second ≤ claims.expiresAt ∧ now.seconds < claims.expiresAt)
      ∧ (∀ claims earlier before, earlier ≤ now → before ≤ second →
        codec.verify algorithm token now second = .ok claims →
          codec.verify algorithm token earlier before = .ok claims)
      ∧ ∀ later after, now ≤ later → second ≤ after →
        codec.verify algorithm token now second = .error (.verification .expired) →
          codec.verify algorithm token later after = .error (.verification .expired) := by
  refine ⟨fun claims => ?_, fun claims earlier before le le' accepted => ?_,
    fun later after le le' expired => ?_⟩
  · rw [verify_eq_ok_iff_genuine plain]
    refine ⟨fun ⟨genuine, rest⟩ => ⟨?_, genuine, rest⟩, fun ⟨_, rest⟩ => rest⟩
    obtain ⟨_, _, _, rfl, -⟩ := genuine
    exact Compact.count_dot_joined
  · obtain ⟨genuine, positive, current, fresh⟩ := (verify_eq_ok_iff_genuine plain).1 accepted
    have := Instant.seconds_le_of_le le
    exact (verify_eq_ok_iff_genuine plain).2 ⟨genuine, positive, by omega, by omega⟩
  · obtain ⟨named, claims, opened, positive, past⟩ := verify_eq_expired_iff.1 expired
    have := Instant.seconds_le_of_le le
    refine verify_eq_expired_iff.2 ⟨named, claims, opened, positive, ?_⟩
    rcases past with past | ⟨issuer, audience, past⟩
    · exact .inl (by omega)
    · exact .inr ⟨issuer, audience, by omega⟩

/-- A token that is signed with a secret: its last second is accepted on the wall clock, and not on
    the clock that the caller gives. -/
theorem accepts_until_expiry :
    let codec : TokenCodec := ⟨"keys", "notes", 60, by decide, by decide⟩
    let algorithm : KeyAlgorithm := .hs256 "k" [7]
    ∃ token claims, ¬ Compact.CarriesNotBefore token ∧ ∀ now second,
      codec.verify algorithm token now second = .ok claims ↔ second ≤ 60 ∧ now.seconds < 60 := by
  intro codec algorithm
  have signs (message : Bytes) : ∃ signature, algorithm.sign message = .ok signature := ⟨_, rfl⟩
  have added : (⟨0, 0⟩ : Instant).add? codec.span = some ⟨60, 0⟩ := by decide
  obtain ⟨issued, issues⟩ : ∃ issued,
      codec.issue algorithm (.ofNat 1) (.ofNat 2) [] ⟨0, 0⟩ = .ok issued :=
    exists_issue signs _ _ _ (Option.isSome_of_eq_some added)
  have expiry : issued.expiresAt.seconds = 60 := by
    obtain ⟨expiresAt, _, added', -, rfl⟩ := issue_eq_ok_iff.1 issues
    rw [← Option.some.inj (added.symm.trans added')]
  have custom : Claims.Plain [] := ⟨Claims.shaped_nil, trivial⟩
  have plain := not_carriesNotBefore issues custom
  obtain ⟨parts, reads⟩ := reads_issued issues custom (by decide)
  have own : algorithm.accepts (Bytes.ofText (Compact.signedText parts.header parts.payload))
      parts.signature = .ok true :=
    congrArg Except.ok (decide_eq_true (Except.ok.inj reads.signed).symm)
  have accepted : codec.verify algorithm issued.token ⟨0, 0⟩ 0
      = .ok (codec.claimsOf [] ⟨0, 0⟩ issued) :=
    reads.verify_eq own (by simp [expiry]) (by simp [expiry]) (by simp [expiry])
  have exactly := accepts_genuine codec algorithm issued.token plain
  obtain ⟨dots, genuine, -⟩ := ((exactly ⟨0, 0⟩ 0).1 _).1 accepted
  refine ⟨issued.token, codec.claimsOf [] ⟨0, 0⟩ issued, plain, fun now second => ?_⟩
  rw [(exactly now second).1]
  have last : (codec.claimsOf [] ⟨0, 0⟩ issued).expiresAt = 60 := expiry
  simp [dots, genuine, last]

end TokenCodec

end Latchkey

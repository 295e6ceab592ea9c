import Latchkey.Proofs.Time.Instant
import Latchkey.Proofs.Token.Check
import Latchkey.Proofs.Token.Parts
import Latchkey.Proofs.Uuid

set_option autoImplicit false

/-! # Issued tokens read back

A token that was issued splits into the parts that it was made of, names its key and its record, and
verifies until it expires if its signature is accepted (`TokenCodec.Reads.verify_eq`). -/

namespace Latchkey

namespace Compact

/-! ## Splitting -/

theorem splitLast?_eq_none {text : List Char} (none : '.' ∉ text) :
    splitLast? text = Option.none := by
  induction text with
  | nil => rfl
  | cons c rest ih =>
    have ⟨first, others⟩ := List.ne_and_not_mem_of_not_mem_cons none
    simp [splitLast?, ih others, Ne.symm first]

theorem splitLast?_append (before : List Char) {after : List Char} (none : '.' ∉ after) :
    splitLast? (before ++ '.' :: after) = some (before, after) := by
  induction before with
  | nil => simp [splitLast?, splitLast?_eq_none none]
  | cons c rest ih => simp [splitLast?, ih]

theorem dot_not_mem_of_splitLast? {text : List Char} (none : splitLast? text = Option.none) :
    '.' ∉ text := by
  induction text with
  | nil => simp
  | cons c rest ih =>
    simp only [splitLast?] at none
    split at none
    · simp at none
    · rename_i others
      split at none
      · simp at none
      · rename_i differs
        exact List.not_mem_cons_of_ne_of_not_mem (Ne.symm differs) (ih others)

theorem splitLast?_eq_some {text before after : List Char}
    (split : splitLast? text = some (before, after)) :
    text = before ++ '.' :: after ∧ '.' ∉ after := by
  induction text generalizing before with
  | nil => simp [splitLast?] at split
  | cons c rest ih =>
    simp only [splitLast?] at split
    split at split
    · rename_i b a found
      obtain ⟨rfl, rfl⟩ := Prod.mk.inj (Option.some.inj split)
      obtain ⟨same, none⟩ := ih found
      exact ⟨by rw [same, List.cons_append], none⟩
    · rename_i none
      split at split
      · rename_i dot
        obtain ⟨rfl, rfl⟩ := Prod.mk.inj (Option.some.inj split)
        exact ⟨by rw [dot, List.nil_append], dot_not_mem_of_splitLast? none⟩
      · simp at split

/-- A token of three parts. -/
def joined (header payload signature : String) : String :=
  signedText header payload ++ "." ++ signature

theorem toList_joined (header payload signature : String) :
    (joined header payload signature).toList
      = (header.toList ++ '.' :: payload.toList) ++ '.' :: signature.toList := by
  simp [joined, signedText]

variable {header payload signature : String}

theorem parts?_joined (second : '.' ∉ payload.toList) (third : '.' ∉ signature.toList) :
    parts? (joined header payload signature) = some ⟨header, payload, signature⟩ := by
  simp only [parts?, toList_joined, splitLast?_append _ third, splitLast?_append _ second, bind,
    Option.bind_some, String.ofList_toList]
  rfl

/-- A token is joined of its parts, and there is no dot in the last two. -/
theorem parts?_eq_some {token : String} {parts : Parts} (split : parts? token = some parts) :
    token = joined parts.header parts.payload parts.signature
      ∧ '.' ∉ parts.payload.toList ∧ '.' ∉ parts.signature.toList := by
  simp only [parts?, Option.bind_eq_bind, Option.bind_eq_some_iff, Prod.exists] at split
  obtain ⟨message, signature, outer, header, payload, inner, same⟩ := split
  obtain rfl := Option.some.inj same
  obtain ⟨whole, third⟩ := splitLast?_eq_some outer
  obtain ⟨front, second⟩ := splitLast?_eq_some inner
  refine ⟨String.toList_injective ?_, by simpa using second, by simpa using third⟩
  rw [toList_joined, whole, front]
  simp

theorem ne_dot_of_mem {text : List Char} (none : '.' ∉ text) :
    ∀ c ∈ text, decide (c ≠ '.') = true :=
  fun _ mem => decide_eq_true fun same => none (same ▸ mem)

theorem secondPart?_joined (first : '.' ∉ header.toList) (second : '.' ∉ payload.toList) :
    secondPart? (joined header payload signature) = some payload := by
  rw [secondPart?, toList_joined, List.append_assoc, List.cons_append,
    List.dropWhile_append_of_pos (ne_dot_of_mem first),
    List.dropWhile_cons_of_neg (by simp)]
  simp only [List.takeWhile_append_of_pos (ne_dot_of_mem second)]
  simp

/-! ## Writing -/

theorem sign_eq_ok {algorithm : KeyAlgorithm} {message : Bytes} {signature : String}
    (signed : algorithm.sign message = .ok signature) :
    ∃ bytes, signature = Base64Url.encode bytes := by
  obtain ⟨signer, -, rfl⟩ := KeyAlgorithm.sign_eq_ok_iff.1 signed
  exact ⟨_, rfl⟩

/-- A token that is written has three parts: the header, the payload and the signature of both. -/
theorem write_eq_ok_iff {algorithm : KeyAlgorithm} {claims : Claims} {token : String} :
    write algorithm claims = .ok token
      ↔ ∃ signature,
        algorithm.sign (Bytes.ofText (signedText
          (Base64Url.encode (Header.render algorithm.name algorithm.keyId))
          (Base64Url.encode claims.render))) = .ok signature
        ∧ token = joined (Base64Url.encode (Header.render algorithm.name algorithm.keyId))
          (Base64Url.encode claims.render) signature := by
  unfold write
  dsimp only
  split
  · rename_i signature signed
    simp only [signed, Except.ok.injEq, exists_eq_left', joined]
    exact eq_comm
  · rename_i r refused
    simp [refused]

end Compact

/-- The payload that claims were found in reads as these claims. -/
theorem Compact.parse?_of_claimsOf {part : String} {claims : Claims}
    (found : Compact.claimsOf part = .ok claims) :
    ∃ bytes, Base64Url.decodeText part = .ok bytes ∧ Claims.parse? bytes = some claims := by
  unfold Compact.claimsOf at found
  cases decoded : Base64Url.decodeText part with
  | error cause => simp [decoded] at found
  | ok bytes =>
    refine ⟨bytes, rfl, ?_⟩
    rw [decoded] at found
    dsimp only at found
    cases parsed : Json.Tree.parse? bytes with
    | none => simp [parsed] at found
    | some tree =>
      rw [parsed] at found
      dsimp only at found
      cases read : Claims.ofTree? tree with
      | none => simp [read] at found
      | some claims' =>
        rw [read] at found
        dsimp only at found
        split at found
        · obtain rfl := Except.ok.inj found
          simp [Claims.parse?, parsed, read]
        · simp at found

/-- The custom claims in a token's payload have the shape that parsing gives them. -/
theorem Compact.shaped_of_payloadClaims? {token : String} {claims : Claims}
    (found : Compact.payloadClaims? token = some claims) : Claims.Shaped claims.custom := by
  obtain ⟨parts, -, payload⟩ := Compact.payloadClaims?_eq_some_iff.1 found
  obtain ⟨bytes, -, parsed⟩ := Compact.parse?_of_claimsOf payload
  obtain ⟨tree, -, found⟩ := Option.bind_eq_some_iff.1 parsed
  exact Claims.shaped_of_ofTree? found

/-! ## Issued tokens -/

namespace TokenCodec

variable {codec : TokenCodec} {algorithm : KeyAlgorithm} {tokenId userId : Uuid}
  {custom : Json.Members} {now later : Instant} {second : Int} {issued : IssuedToken}

/-- The claims that an issued token carries. -/
def claimsOf (codec : TokenCodec) (custom : Json.Members) (now : Instant) (issued : IssuedToken) :
    Claims :=
  codec.claimsFor issued.tokenId issued.userId custom now issued.expiresAt

/-- How an issued token comes apart. -/
structure Reads (codec : TokenCodec) (algorithm : KeyAlgorithm) (custom : Json.Members)
    (now : Instant) (issued : IssuedToken) (parts : Compact.Parts) : Prop where
  split : Compact.parts? issued.token = some parts
  second : Compact.secondPart? issued.token = some parts.payload
  header : Compact.headerOf parts.header = .ok ⟨algorithm.name, some algorithm.keyId⟩
  claims : Compact.claimsOf parts.payload = .ok (codec.claimsOf custom now issued)
  signed : algorithm.sign (Bytes.ofText (Compact.signedText parts.header parts.payload))
    = .ok parts.signature

/-- An algorithm that signs everything issues every token that does not expire too late. -/
theorem exists_issue (signs : ∀ message, ∃ signature, algorithm.sign message = .ok signature)
    (tokenId userId : Uuid) (custom : Json.Members)
    (inTime : (now.add? codec.span).isSome = true) :
    ∃ issued, codec.issue algorithm tokenId userId custom now = .ok issued := by
  obtain ⟨expiresAt, added⟩ := Option.isSome_iff_exists.1 inTime
  obtain ⟨signature, signed⟩ := signs _
  exact ⟨_, issue_eq_ok_iff.2 ⟨expiresAt, _, added,
    Compact.write_eq_ok_iff.2 ⟨signature, signed, rfl⟩, rfl⟩⟩

/-- The seconds of an instant have 64 bits. -/
theorem int64_of_inRange (within : Instant.inRange second = true) :
    Numeral.leastInteger ≤ second ∧ second ≤ Numeral.greatestInteger := by
  simp only [Instant.inRange, Bool.and_eq_true, decide_eq_true_iff] at within
  simp only [Instant.earliest, Instant.latest] at within
  simp only [Numeral.leastInteger, Numeral.greatestInteger]
  omega

/-- What is issued after 1970 expires after 1970. -/
theorem inRange_of_issue (issues : codec.issue algorithm tokenId userId custom now = .ok issued)
    (since : 0 ≤ now.seconds) :
    Instant.inRange now.seconds = true ∧ 0 < issued.expiresAt.seconds := by
  obtain ⟨expiresAt, token, added, -, rfl⟩ := issue_eq_ok_iff.1 issues
  obtain ⟨carry, seconds, last⟩ := Instant.seconds_of_add? added
  have positive := codec.lifetime_pos
  simp only [span] at seconds
  simp only [Instant.inRange, Bool.and_eq_true, decide_eq_true_iff]
  simp only [Instant.earliest, Instant.latest] at last ⊢
  omega

/-- An issued token can be read. -/
theorem reads_issued (issues : codec.issue algorithm tokenId userId custom now = .ok issued)
    (plain : Claims.Plain custom) (within : Instant.inRange now.seconds = true) :
    ∃ parts, Reads codec algorithm custom now issued parts := by
  obtain ⟨expiresAt, token, added, written, rfl⟩ := issue_eq_ok_iff.1 issues
  obtain ⟨signature, signed, rfl⟩ := Compact.write_eq_ok_iff.1 written
  obtain ⟨bytes, rfl⟩ := Compact.sign_eq_ok signed
  refine ⟨⟨_, _, _⟩, Compact.parts?_joined (Base64Url.dot_not_mem_encode _)
    (Base64Url.dot_not_mem_encode _), Compact.secondPart?_joined (Base64Url.dot_not_mem_encode _)
    (Base64Url.dot_not_mem_encode _), Compact.headerOf_encode _ _, ?_, signed⟩
  exact Compact.claimsOf_encode rfl plain.stripReserved
    (fun m mem => Claims.not_reserved_of_mem mem) (int64_of_inRange within)
    (int64_of_inRange (Instant.inRange_of_add? added))

variable {parts : Compact.Parts}

theorem Reads.readHeader_eq (reads : Reads codec algorithm custom now issued parts) :
    Compact.readHeader issued.token = .ok ⟨algorithm.name, some algorithm.keyId⟩ := by
  rw [Compact.readHeader, reads.split]
  exact reads.header

/-- A token that can be read names its key. -/
theorem Reads.decode_eq (reads : Reads codec algorithm custom now issued parts) :
    decode issued.token
      = .ok ⟨some algorithm.keyId, codec.claimsOf custom now issued⟩ := by
  obtain ⟨bytes, decoded, parsed⟩ := Compact.parse?_of_claimsOf reads.claims
  simp only [decode, reads.readHeader_eq, reads.second, decoded, parsed]

/-- An issued token verifies until it expires, if its signature is accepted. -/
theorem Reads.verify_eq (reads : Reads codec algorithm custom now issued parts)
    (accepted : algorithm.accepts (Bytes.ofText (Compact.signedText parts.header parts.payload))
      parts.signature = .ok true)
    (fresh : later.seconds < issued.expiresAt.seconds)
    (current : second ≤ issued.expiresAt.seconds) (after : 0 ≤ issued.expiresAt.seconds) :
    codec.verify algorithm issued.token later second
      = .ok (codec.claimsOf custom now issued) := by
  have passed : Compact.checkClaims codec.issuer codec.audience second
      (codec.claimsOf custom now issued) = .ok () :=
    Compact.checkClaims_eq_ok_iff.2 ⟨rfl, rfl, after, current⟩
  exact verify_eq_ok_iff.2 ⟨⟨_, reads.readHeader_eq, rfl⟩,
    Compact.check_eq_ok_iff.2 ⟨parts, _, reads.split, reads.header, rfl, accepted, reads.claims,
      passed⟩, decide_eq_false (Int.not_le.2 fresh)⟩

/-! ## The identifiers of an issued token -/

theorem identifier_toText (claim : String) (id : Uuid) :
    Claims.identifier claim id.toText = .ok id := by
  rw [Claims.identifier, Uuid.parse_toText]

theorem tokenId_claimsFor (codec : TokenCodec) (tokenId userId : Uuid)
    (custom : Json.Members) (now expiresAt : Instant) :
    (codec.claimsFor tokenId userId custom now expiresAt).tokenId = tokenId.toText := rfl

theorem userId_claimsOf (codec : TokenCodec) (custom : Json.Members) (now : Instant)
    (issued : IssuedToken) : (codec.claimsOf custom now issued).userId = .ok issued.userId := by
  simp only [Claims.userId, claimsOf, claimsFor, identifier_toText]

theorem recordId_claimsOf (codec : TokenCodec) (custom : Json.Members) (now : Instant)
    (issued : IssuedToken) : (codec.claimsOf custom now issued).recordId = .ok issued.tokenId := by
  simp only [Claims.recordId, claimsOf, claimsFor, identifier_toText]

end TokenCodec

end Latchkey

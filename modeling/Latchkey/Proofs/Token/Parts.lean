import Latchkey.Proofs.Bytes.Base64Url
import Latchkey.Proofs.Json.Record
import Latchkey.Token.Compact
import Mathlib.Data.Option.Basic

set_option autoImplicit false

/-! # The parts of a token read back

A header that is written names its algorithm and key again (`Compact.headerOf_encode`), and claims
are read from their own payload (`Compact.claimsOf_encode`), as long as what the caller has added is
plain. -/

namespace Latchkey

/-! ## Headers -/

/-- The members of a header that is written. -/
def Header.members (algorithm : AlgorithmName) (keyId : String) : Json.Members :=
  [("typ", .string "JWT"), ("alg", .string algorithm.toText), ("kid", .string keyId)]

theorem Header.ofTree?_treeOf (algorithm : AlgorithmName) (keyId : String) :
    Header.ofTree? (Json.treeOf (.object (Header.members algorithm keyId)))
      = some ⟨algorithm, some keyId⟩ := by
  have fields : Json.recordFields? Header.fieldNames
        (Json.treeOf (.object (Header.members algorithm keyId)))
      = some (Json.fieldsOf (Header.members algorithm keyId)) := by
    simp only [Json.treeOf, Json.recordFields?, Json.objectFields?, Json.namedMembers?_membersOf]
    rfl
  have type : Json.Fields.optional? (Json.fieldsOf (Header.members algorithm keyId)) "typ"
      Json.Tree.text? = some (some "JWT") := Json.Fields.optional?_text rfl
  have name : Json.Fields.required? (Json.fieldsOf (Header.members algorithm keyId)) "alg"
      Header.algorithm? = some algorithm := by
    show (Json.textOf? (Json.tokenOf algorithm.toText)).bind AlgorithmName.ofText? = some algorithm
    rw [Json.textOf?_tokenOf]
    cases algorithm <;> rfl
  have key : Json.Fields.optional? (Json.fieldsOf (Header.members algorithm keyId)) "kid"
      Json.Tree.text? = some (some keyId) := Json.Fields.optional?_text rfl
  simp only [Header.ofTree?, fields, type, name, key, bind, Option.bind_some]
  rfl

/-- A header that was written is read. -/
theorem Compact.headerOf_encode (algorithm : AlgorithmName) (keyId : String) :
    Compact.headerOf (Base64Url.encode (Header.render algorithm keyId))
      = .ok ⟨algorithm, some keyId⟩ := by
  have plain : Json.NoDoubles (.object (Header.members algorithm keyId)) := by
    simp [Header.members, Json.NoDoubles, Json.NoDoublesIn]
  have tree : Json.Tree.parse? (Header.render algorithm keyId)
      = some (Json.treeOf (.object (Header.members algorithm keyId))) := Json.parse?_render plain
  rw [Compact.headerOf, Base64Url.decodeText_encode]
  simp only [tree, Option.bind_some, Header.ofTree?_treeOf]

/-! ## Claims -/

namespace Claims

/-- Custom claims that parsing can give: in order, and nested less deep than what is parsed. -/
structure Shaped (custom : Json.Members) : Prop where
  sorted : Json.Sorted custom
  formed : Json.WellFormedIn (Json.maxDepth - 1) custom

/-- Custom claims that are read back as they are: there is no double among them. -/
structure Plain (custom : Json.Members) : Prop extends Shaped custom where
  exact : Json.NoDoublesIn custom

variable {custom : Json.Members}

theorem shaped_nil : Shaped [] :=
  ⟨by simp [Json.Sorted], trivial⟩

theorem shaped_of_customOf? {fields : Json.Fields} {found : Json.Members} (h : Shaped found)
    (read : customOf? fields found = some custom) : Shaped custom := by
  induction fields generalizing found with
  | nil =>
    obtain rfl := Option.some.inj read
    exact h
  | cons field rest ih =>
    simp only [customOf?, Option.bind_eq_bind, Option.bind_eq_some_iff] at read
    obtain ⟨value, first, others⟩ := read
    refine ih ⟨h.sorted.insertMember, Json.wellFormedIn_iff.2 fun m mem => ?_⟩ others
    rcases Json.mem_insertMember mem with rfl | mem
    · exact Json.wellFormed_of_ofTree? _ _ _ first
    · exact Json.wellFormedIn_iff.1 h.formed m mem

/-- What is read has this shape. -/
theorem shaped_of_ofTree? {tree : Json.Tree} {claims : Claims}
    (read : ofTree? tree = some claims) : Shaped claims.custom := by
  cases tree with
  | object members =>
    simp only [ofTree?, Option.bind_eq_bind, Option.bind_eq_some_iff] at read
    obtain ⟨named, -, _, -, custom, found, _, -, _, -, _, -, _, -, _, -, _, -, same⟩ := read
    obtain rfl := Option.some.inj same
    exact shaped_of_customOf? shaped_nil found
  | null | bool _ | number _ | string _ | array _ => simp [ofTree?] at read

/-- Taking names out leaves claims plain. -/
theorem Plain.stripReserved (plain : Plain custom) : Plain (stripReserved custom) := by
  refine ⟨⟨?_, ?_⟩, ?_⟩
  · exact plain.sorted.sublist (List.filter_sublist.map _)
  · exact Json.wellFormedIn_iff.2 fun m mem =>
      Json.wellFormedIn_iff.1 plain.formed m (List.mem_filter.1 mem |>.1)
  · exact Json.noDoublesIn_iff.2 fun m mem =>
      Json.noDoublesIn_iff.1 plain.exact m (List.mem_filter.1 mem |>.1)

theorem stripReserved_stripReserved (custom : Json.Members) :
    stripReserved (stripReserved custom) = stripReserved custom := by
  simp [stripReserved, List.filter_filter]

theorem not_reserved_of_mem {m : String × Json} (mem : m ∈ stripReserved custom) :
    reservedNames.contains m.1 = false := by
  simpa using (List.mem_filter.1 mem).2

theorem customOf?_fieldsOf (custom found : Json.Members)
    (formed : Json.WellFormedIn (Json.maxDepth - 1) custom) (plain : Json.NoDoublesIn custom)
    (sorted : Json.Sorted (found ++ custom)) :
    customOf? (Json.fieldsOf custom) found = some (found ++ custom) := by
  induction custom generalizing found with
  | nil => simp [Json.fieldsOf, customOf?]
  | cons m rest ih =>
    obtain ⟨name, value⟩ := m
    have first := Json.ofTree?_treeOf _ value formed.1 plain.1
    have others := ih (found ++ [(name, value)]) formed.2 plain.2 (by simpa using sorted)
    have last : ∀ m ∈ found, m.1 < name := by
      intro m mem
      rw [Json.Sorted, List.map_append, List.pairwise_append] at sorted
      exact sorted.2.2 m.1 (List.mem_map_of_mem mem) name (by simp)
    simp only [Json.fieldsOf, List.map_cons, customOf?, first, bind, Option.bind_some,
      Json.insertMember_of_last last]
    rw [← Json.fieldsOf, others]
    simp

/-- The registered members of claims. -/
def registered (claims : Claims) (subject : String) : Json.Members :=
  [("iss", .string claims.issuer), ("aud", .string claims.audience), ("sub", .string subject),
    ("iat", .int claims.issuedAt), ("exp", .int claims.expiresAt), ("jti", .string claims.tokenId)]

/-- The members that have a field of their own, with or without a subject. -/
def ownMembers (claims : Claims) : Json.Members :=
  [("iss", .string claims.issuer), ("aud", .string claims.audience)]
    ++ (match claims.subject with
        | some subject => [("sub", .string subject)]
        | none => [])
    ++ [("iat", .int claims.issuedAt), ("exp", .int claims.expiresAt),
        ("jti", .string claims.tokenId)]

variable {claims : Claims} {subject : String}

theorem members_eq (owned : claims.subject = some subject) :
    claims.members = claims.registered subject ++ claims.custom := by
  simp [members, owned, registered]

theorem members_eq_ownMembers (claims : Claims) :
    claims.members = claims.ownMembers ++ claims.custom :=
  rfl

/-- The times of claims are signed 64-bit integers. -/
def Timed (claims : Claims) : Prop :=
  (Numeral.leastInteger ≤ claims.issuedAt ∧ claims.issuedAt ≤ Numeral.greatestInteger)
    ∧ Numeral.leastInteger ≤ claims.expiresAt ∧ claims.expiresAt ≤ Numeral.greatestInteger

/-- Each of the names that have a field of their own is read from that field's member. -/
theorem fields_ownMembers (timed : claims.Timed) :
    let fields := Json.fieldsOf claims.ownMembers
    Json.Fields.required? fields "iss" Json.Tree.text? = some claims.issuer
      ∧ Json.Fields.required? fields "aud" Json.Tree.text? = some claims.audience
      ∧ Json.Fields.optional? fields "sub" Json.Tree.text? = some claims.subject
      ∧ Json.Fields.required? fields "iat" Json.Tree.int64? = some claims.issuedAt
      ∧ Json.Fields.required? fields "exp" Json.Tree.int64? = some claims.expiresAt
      ∧ Json.Fields.required? fields "jti" Json.Tree.text? = some claims.tokenId := by
  obtain ⟨issued, expires⟩ := timed
  unfold ownMembers
  cases claims.subject with
  | none =>
    exact ⟨Json.text?_treeOf _, Json.text?_treeOf _, rfl, Json.int64?_treeOf issued.1 issued.2,
      Json.int64?_treeOf expires.1 expires.2, Json.text?_treeOf _⟩
  | some subject =>
    exact ⟨Json.text?_treeOf _, Json.text?_treeOf _, Json.Fields.optional?_text rfl,
      Json.int64?_treeOf issued.1 issued.2, Json.int64?_treeOf expires.1 expires.2,
      Json.text?_treeOf _⟩

theorem ofTree?_treeOf (plain : Plain claims.custom)
    (free : ∀ m ∈ claims.custom, fieldNames.contains m.1 = false) (timed : claims.Timed) :
    ofTree? (Json.treeOf (.object claims.members)) = some claims := by
  -- The members with a field of their own come first, and no custom claim has the name of one.
  have known : (claims.members.filter fun m => fieldNames.contains m.1) = claims.ownMembers := by
    have front : (claims.ownMembers.filter fun m => fieldNames.contains m.1)
        = claims.ownMembers := by
      unfold ownMembers
      cases claims.subject <;> rfl
    have none : (claims.custom.filter fun m => fieldNames.contains m.1) = [] :=
      List.filter_eq_nil_iff.2 fun m mem => by simpa using free m mem
    rw [members_eq_ownMembers, List.filter_append, front, none, List.append_nil]
  have others : (claims.members.filter fun m => !fieldNames.contains m.1) = claims.custom := by
    have front : (claims.ownMembers.filter fun m => !fieldNames.contains m.1) = [] := by
      unfold ownMembers
      cases claims.subject <;> rfl
    have all : (claims.custom.filter fun m => !fieldNames.contains m.1) = claims.custom :=
      List.filter_eq_self.2 fun m mem => by simpa using free m mem
    rw [members_eq_ownMembers, List.filter_append, front, all, List.nil_append]
  have distinct : Json.allDistinct ((Json.fieldsOf claims.ownMembers).map (·.1)) = true := by
    unfold ownMembers
    cases claims.subject <;> rfl
  have read := customOf?_fieldsOf claims.custom [] plain.formed plain.exact plain.sorted
  rw [List.nil_append] at read
  simp only [Json.treeOf, ofTree?, Json.namedMembers?_membersOf, bind, Option.bind_some]
  rw [Json.filter_fieldsOf fieldNames.contains, known,
    Json.filter_fieldsOf (fun name => !fieldNames.contains name), others, read, distinct]
  obtain ⟨issuer, audience, owner, since, till, name⟩ := fields_ownMembers timed
  simp only [issuer, audience, owner, since, till, name, Option.bind_some]
  rfl

theorem passesOver_treeOf (owned : claims.subject = some subject)
    (free : ∀ m ∈ claims.custom, reservedNames.contains m.1 = false) :
    Compact.passesOver (Json.treeOf (.object claims.members)) = true := by
  have none : (claims.members.filter fun m => ["nbf"].contains m.1) = [] := by
    rw [members_eq owned, List.filter_append]
    refine List.append_eq_nil_iff.2 ⟨rfl, List.filter_eq_nil_iff.2 fun m mem => ?_⟩
    have := free m mem
    simp_all [reservedNames]
  have fields : Json.objectFields? ["nbf"] (Json.membersOf claims.members) = some [] := by
    simp only [Json.objectFields?, Json.namedMembers?_membersOf, bind, Option.bind_some]
    rw [Json.filter_fieldsOf ["nbf"].contains, none]
    rfl
  simp only [Json.treeOf, Compact.passesOver, fields]
  rfl

theorem noDoubles_members (plain : Json.NoDoublesIn claims.custom) :
    Json.NoDoubles (.object claims.members) := by
  rw [members_eq_ownMembers]
  refine Json.noDoublesIn_iff.2 fun m mem => ?_
  rcases List.mem_append.1 mem with mem | mem
  · have own : Json.NoDoublesIn claims.ownMembers := by
      unfold ownMembers
      cases claims.subject <;> simp [Json.NoDoublesIn, Json.NoDoubles, Json.int]
    exact Json.noDoublesIn_iff.1 own m mem
  · exact Json.noDoublesIn_iff.1 plain m mem

/-- The payload of claims says these claims. -/
theorem parse?_render (plain : Json.NoDoublesIn claims.custom) :
    Json.Tree.parse? claims.render = some (Json.treeOf (.object claims.members)) :=
  Json.parse?_render (noDoubles_members plain)

/-- Whatever is read from the payload of claims says the same as these, but for custom claims in
    which there may be doubles. -/
theorem eq_of_parse?_render {found : Claims} (owned : claims.subject = some subject)
    (read : parse? claims.render = some found) :
    found = { claims with custom := found.custom }
      ∧ (Numeral.leastInteger ≤ claims.issuedAt ∧ claims.issuedAt ≤ Numeral.greatestInteger)
      ∧ Numeral.leastInteger ≤ claims.expiresAt ∧ claims.expiresAt ≤ Numeral.greatestInteger := by
  obtain ⟨tree, parsed, read⟩ := Option.bind_eq_some_iff.1 read
  rw [render, members_eq owned] at parsed
  have plain : Json.NoDoublesIn (claims.registered subject) := by
    simp [registered, Json.NoDoublesIn, Json.NoDoubles, Json.int]
  obtain ⟨others, rfl⟩ : ∃ others,
      tree = .object (Json.membersOf (claims.registered subject) ++ others) :=
    Json.exists_of_parse?_render plain parsed
  simp only [ofTree?, Json.namedMembers?_membersOf_append, Option.bind_eq_bind,
    Option.bind_eq_some_iff, Option.map_eq_some_iff] at read
  obtain ⟨_, ⟨more, -, rfl⟩, _, -, custom, -, issuer, issuer', audience, audience', owner, owner',
    since, since', till, till', name, name', same⟩ := read
  obtain rfl := Option.some.inj same
  -- The first member of each registered name is the one that was written.
  rw [List.filter_append] at issuer' audience' owner' since' till' name'
  change (Json.treeOf (.string claims.issuer)).text? = some issuer at issuer'
  change (Json.treeOf (.string claims.audience)).text? = some audience at audience'
  change (Json.treeOf (.string claims.tokenId)).text? = some name at name'
  change (Json.treeOf (.int claims.issuedAt)).int64? = some since at since'
  change (Json.treeOf (.int claims.expiresAt)).int64? = some till at till'
  change ((Json.treeOf (.string subject)).text?).map some = some owner at owner'
  obtain ⟨rfl, issued⟩ := Json.eq_of_int64?_treeOf since'
  obtain ⟨rfl, expires⟩ := Json.eq_of_int64?_treeOf till'
  simp only [Json.text?_treeOf, Option.some.injEq, Option.map_some]
    at issuer' audience' owner' name'
  subst issuer' audience' owner' name'
  exact ⟨by rw [← owned], issued, expires⟩

end Claims

/-- Claims that were written are read. -/
theorem Compact.claimsOf_encode {claims : Claims} {subject : String}
    (owned : claims.subject = some subject) (plain : Claims.Plain claims.custom)
    (free : ∀ m ∈ claims.custom, Claims.reservedNames.contains m.1 = false)
    (issued : Numeral.leastInteger ≤ claims.issuedAt ∧ claims.issuedAt ≤ Numeral.greatestInteger)
    (expires : Numeral.leastInteger ≤ claims.expiresAt
      ∧ claims.expiresAt ≤ Numeral.greatestInteger) :
    Compact.claimsOf (Base64Url.encode claims.render) = .ok claims := by
  -- No custom claim has a reserved name, so none has the name of a field.
  have unregistered : ∀ m ∈ claims.custom, Claims.fieldNames.contains m.1 = false := by
    intro m mem
    have := free m mem
    simp_all [Claims.reservedNames, Claims.fieldNames]
  rw [Compact.claimsOf, Base64Url.decodeText_encode]
  simp only [Claims.parse?_render plain.exact,
    Claims.ofTree?_treeOf plain unregistered ⟨issued, expires⟩, Claims.passesOver_treeOf owned free,
    if_true]

end Latchkey

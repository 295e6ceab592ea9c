import Latchkey.Proofs.Token.Parts

set_option autoImplicit false

/-! # Claims as JSON

What a text says is always well-formed: the times fit 64 bits, and no other claim has the name of a
field (`Claims.wellFormed_of_ofTree?`). Conversely, well-formed claims without doubles are what their
own text says, so that writing and reading is the identity on whatever a text without doubles can say
(`Claims.text_round_trip`). -/

namespace Latchkey

namespace Claims

/-- Claims as a text can say them. -/
structure WellFormed (claims : Claims) : Prop where
  timed : claims.Timed
  shaped : Shaped claims.custom
  /-- No other claim has the name of a field. -/
  free : ∀ m ∈ claims.custom, fieldNames.contains m.1 = false

variable {claims : Claims} {custom found : Json.Members} {fields : Json.Fields} {tree : Json.Tree}

/-! ## What reading gives -/

/-- Every other claim has been there before, or has been read from a member of its name. -/
theorem exists_of_customOf? (read : customOf? fields found = some custom) :
    ∀ m ∈ custom, m ∈ found ∨ ∃ field ∈ fields, field.1 = m.1
      ∧ Json.ofTree? (Json.maxDepth - 1) field.2 = some m.2 := by
  induction fields generalizing found with
  | nil =>
    obtain rfl := Option.some.inj read
    exact fun m mem => .inl mem
  | cons field rest ih =>
    obtain ⟨name, tree⟩ := field
    simp only [customOf?, Option.bind_eq_bind, Option.bind_eq_some_iff] at read
    obtain ⟨value, first, others⟩ := read
    intro m mem
    rcases ih others m mem with inside | ⟨field, inside, same⟩
    · rcases Json.mem_insertMember inside with rfl | inside
      · exact .inr ⟨(name, tree), List.mem_cons_self, rfl, first⟩
      · exact .inl inside
    · exact .inr ⟨field, List.mem_cons_of_mem _ inside, same⟩

/-- How claims are read: the members without a field become the other claims, and the times are
    integers of 64 bits. -/
theorem parts_of_ofTree? (read : ofTree? tree = some claims) :
    ∃ members named, tree = .object members ∧ Json.namedMembers? members = some named
      ∧ customOf? (named.filter fun field => !fieldNames.contains field.1) [] = some claims.custom
      ∧ claims.Timed := by
  cases tree with
  | object members =>
    simp only [ofTree?, Option.bind_eq_bind, Option.bind_eq_some_iff] at read
    obtain ⟨named, names, _, -, custom, others, _, -, _, -, _, -, since, since', till, till', _, -,
      same⟩ := read
    obtain rfl := Option.some.inj same
    obtain ⟨_, -, issued⟩ := Option.bind_eq_some_iff.1 since'
    obtain ⟨_, -, expires⟩ := Option.bind_eq_some_iff.1 till'
    exact ⟨members, named, rfl, names, others, Json.bounds_of_int64? issued,
      Json.bounds_of_int64? expires⟩
  | null | bool _ | number _ | string _ | array _ => simp [ofTree?] at read

/-- What is read is well-formed. -/
theorem wellFormed_of_ofTree? (read : ofTree? tree = some claims) : claims.WellFormed := by
  obtain ⟨members, named, -, -, others, timed⟩ := parts_of_ofTree? read
  refine ⟨timed, shaped_of_ofTree? read, fun m mem => ?_⟩
  rcases exists_of_customOf? others m mem with inside | ⟨field, inside, same, -⟩
  · simp at inside
  · simpa [same] using (List.mem_filter.1 inside).2

/-- From a tree without doubles no double is read. -/
theorem noDoublesIn_of_ofTree? (plain : tree.NoDoubles) (read : ofTree? tree = some claims) :
    Json.NoDoublesIn claims.custom := by
  obtain ⟨members, named, rfl, names, others, -⟩ := parts_of_ofTree? read
  refine Json.noDoublesIn_iff.2 fun m mem => ?_
  rcases exists_of_customOf? others m mem with inside | ⟨field, inside, -, value⟩
  · simp at inside
  · have own := Json.noDoubles_of_namedMembers? plain names field (List.mem_filter.1 inside).1
    exact Json.noDoubles_of_ofTree? _ _ _ own value

/-! ## Reading what was written -/

/-- Claims without doubles are what their own text says if and only if they are well-formed. -/
theorem parse?_render_eq_self_iff (plain : Json.NoDoublesIn claims.custom) :
    parse? claims.render = some claims ↔ claims.WellFormed := by
  constructor
  · intro read
    obtain ⟨tree, -, read⟩ := Option.bind_eq_some_iff.1 read
    exact wellFormed_of_ofTree? read
  · intro formed
    rw [parse?, parse?_render plain, Option.bind_some,
      ofTree?_treeOf ⟨formed.shaped, plain⟩ formed.free formed.timed]

/-- Well-formed claims without doubles are what their own text says, and no others are. Whatever a
    text says, no other claim has the name of a field; and if the numerals of the text all write
    integers, the text of what it says is read as the same claims again. -/
theorem text_round_trip :
    (∀ claims : Claims, Json.NoDoublesIn claims.custom →
      (parse? claims.render = some claims ↔ claims.WellFormed))
      ∧ ∀ (text : Bytes) (claims : Claims), parse? text = some claims →
        (∀ m ∈ claims.custom, m.1 ∉ ["iss", "aud", "sub", "iat", "exp", "jti"])
          ∧ ((∀ tree, Json.Tree.parse? text = some tree → tree.NoDoubles) →
            parse? claims.render = some claims) := by
  refine ⟨fun claims plain => parse?_render_eq_self_iff plain, fun text claims read => ?_⟩
  obtain ⟨tree, parsed, read⟩ := Option.bind_eq_some_iff.1 read
  have formed := wellFormed_of_ofTree? read
  refine ⟨fun m mem => ?_, fun plain => ?_⟩
  · simpa [fieldNames] using formed.free m mem
  · exact (parse?_render_eq_self_iff (noDoublesIn_of_ofTree? (plain tree parsed) read)).2 formed

/-- Claims with an escaped name and the largest integer, and a text that repeats a name in another
    spelling. -/
theorem text_round_trip_escaped :
    let claims : Claims := ⟨"keys", "notes", none, -1, 9223372036854775807, "t",
      [("nbf", .array [.object [("say \"é\"", .int 18446744073709551615)], .null])]⟩
    let text := Bytes.ofText ("\x7b\"jti\":\"t\",\"z\":1,\"exp\":2,\"iat\":-1,\"sub\":null,"
      ++ "\"aud\":\"b\",\"iss\":\"a\",\"\\u007a\":[true]\x7d")
    parse? claims.render = some claims
      ∧ ∃ read, parse? text = some read ∧ read.custom = [("z", .array [.bool true])]
        ∧ parse? read.render = some read := by
  intro claims text
  have exact : Json.NoDoublesIn claims.custom := ⟨⟨⟨trivial, trivial⟩, trivial, trivial⟩, trivial⟩
  have formed : claims.WellFormed := by
    refine ⟨⟨by decide, by decide⟩, ⟨List.pairwise_singleton _ _, ?_⟩, ?_⟩
    · exact ⟨⟨⟨List.pairwise_singleton _ _, ⟨by decide, by decide⟩, trivial⟩, trivial, trivial⟩,
        trivial⟩
    · exact List.forall_mem_singleton.2 rfl
  obtain ⟨back, again⟩ := text_round_trip
  have read : parse? text = some ⟨"a", "b", none, -1, 2, "t", [("z", .array [.bool true])]⟩ := rfl
  refine ⟨(back claims exact).2 formed, _, read, rfl, (again text _ read).2 fun tree parsed => ?_⟩
  obtain rfl := Option.some.inj parsed
  exact ⟨trivial, ⟨1, rfl⟩, ⟨2, rfl⟩, ⟨-1, rfl⟩, trivial, trivial, trivial, ⟨trivial, trivial⟩,
    trivial⟩

end Claims

end Latchkey

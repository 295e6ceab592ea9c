import Latchkey.Json.Record
import Latchkey.Proofs.Json.Value

set_option autoImplicit false

/-! # Records read back

The members of a written object are found under their names, and an integer within bounds is read as
itself. -/

namespace Latchkey.Json

/-- Members by name, with their trees. -/
def fieldsOf (members : Members) : Fields :=
  members.map fun (name, value) => (name, treeOf value)

@[simp] theorem namedMembers?_membersOf (members : Members) :
    namedMembers? (membersOf members) = some (fieldsOf members) := by
  induction members with
  | nil => rfl
  | cons m rest ih =>
    obtain ⟨name, value⟩ := m
    simp [membersOf, namedMembers?, ih, fieldsOf]

theorem namedMembers?_membersOf_append (members : Members) (others : List (Bytes × Tree)) :
    namedMembers? (membersOf members ++ others)
      = (namedMembers? others).map (fieldsOf members ++ ·) := by
  induction members with
  | nil => simp [membersOf, fieldsOf]
  | cons m rest ih =>
    obtain ⟨name, value⟩ := m
    simp only [membersOf, List.cons_append, namedMembers?, textOf?_tokenOf, ih]
    cases namedMembers? others <;> rfl

/-- The trees under the names are those of the members. -/
theorem noDoubles_of_namedMembers? {members : List (Bytes × Tree)} {named : Fields}
    (plain : Tree.NoDoublesIn members) (read : namedMembers? members = some named) :
    ∀ field ∈ named, field.2.NoDoubles := by
  induction members generalizing named with
  | nil =>
    obtain rfl := Option.some.inj read
    simp
  | cons m rest ih =>
    simp only [namedMembers?, Option.bind_eq_bind, Option.bind_eq_some_iff] at read
    obtain ⟨name, -, more, others, same⟩ := read
    obtain rfl := Option.some.inj same
    exact List.forall_mem_cons.2 ⟨plain.1, ih plain.2 others⟩

theorem filter_fieldsOf (p : String → Bool) (members : Members) :
    ((fieldsOf members).filter fun field => p field.1)
      = fieldsOf (members.filter fun member => p member.1) := by
  simp only [fieldsOf, List.filter_map]
  rfl

/-- An integer that is written is read if it is within the bounds. -/
theorem int64?_treeOf {value : Int} (low : Numeral.leastInteger ≤ value)
    (high : value ≤ Numeral.greatestInteger) : Tree.int64? (treeOf (.int value)) = some value := by
  have fits : Number.Fits value := by
    unfold Number.Fits Number.maxGathered
    unfold Numeral.leastInteger at low
    unfold Numeral.greatestInteger at high
    simp only [Nat.pow_eq]
    omega
  simp [Tree.int64?, Tree.integer?, treeOf, Json.int, Number.ofNumeral?_render fits, low, high]

/-- An integer that is read from a written one is that one, and within the bounds. -/
theorem eq_of_int64?_treeOf {value found : Int}
    (read : Tree.int64? (treeOf (.int value)) = some found) :
    found = value ∧ Numeral.leastInteger ≤ found ∧ found ≤ Numeral.greatestInteger := by
  simp only [Tree.int64?, Tree.integer?, treeOf, Json.int] at read
  split at read
  · rename_i found' same
    obtain ⟨within, same'⟩ := Option.ite_none_right_eq_some.1 read
    obtain rfl := Option.some.inj same'
    exact ⟨Number.eq_of_ofNumeral?_render same, within⟩
  · simp at read

/-- Only an integer within the bounds is read. -/
theorem bounds_of_int64? {tree : Tree} {value : Int} (read : tree.int64? = some value) :
    Numeral.leastInteger ≤ value ∧ value ≤ Numeral.greatestInteger := by
  unfold Tree.int64? Tree.integer? at read
  split at read
  · split at read
    · obtain ⟨within, same⟩ := Option.ite_none_right_eq_some.1 read
      exact Option.some.inj same ▸ within
    · simp at read
  · simp at read

@[simp] theorem text?_treeOf (text : String) : Tree.text? (treeOf (.string text)) = some text := by
  simp [Tree.text?, treeOf]

/-! ## Fields -/

variable {fields : Fields} {name : String}

theorem Fields.optional?_text {text : String}
    (found : fields.find? name = some (treeOf (.string text))) :
    fields.optional? name Tree.text? = some (some text) := by
  simp only [optional?, found]
  show (Tree.text? (treeOf (.string text))).map some = _
  simp

end Latchkey.Json

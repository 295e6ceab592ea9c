import Latchkey.Proofs.Json.Tree

set_option autoImplicit false

/-! # Values read back

Parsing gives well-formed values (`Json.wellFormed_of_ofTree?`), and a well-formed value in which
there is no double is what its own text is read as (`Json.ofTree?_treeOf`). -/

namespace Latchkey.Json

/-! ## Well-formed values -/

/-- The names of members stand in order, each once. -/
def Sorted (members : Members) : Prop :=
  (members.map (·.1)).Pairwise (· < ·)

mutual

/-- A value with at most `depth` levels of arrays and objects, whose integers fit and whose members
    are in order. -/
def WellFormed (depth : Nat) : Json → Prop
  | .null | .bool _ | .string _ | .number (.float _) => True
  | .number (.int value) => Number.Fits value
  | .array elements =>
    match depth with
    | 0 => False
    | depth + 1 => WellFormedAmong depth elements
  | .object members =>
    match depth with
    | 0 => False
    | depth + 1 => Sorted members ∧ WellFormedIn depth members

/-- Well-formed values. -/
def WellFormedAmong (depth : Nat) : List Json → Prop
  | [] => True
  | value :: rest => WellFormed depth value ∧ WellFormedAmong depth rest

/-- Members with well-formed values. -/
def WellFormedIn (depth : Nat) : Members → Prop
  | [] => True
  | (_, value) :: rest => WellFormed depth value ∧ WellFormedIn depth rest

end

/-! ## Members in order -/

/-- A member that belongs last is set last. -/
theorem insertMember_of_last {name : String} {value : Json} {members : Members}
    (last : ∀ m ∈ members, m.1 < name) :
    insertMember name value members = members ++ [(name, value)] := by
  induction members with
  | nil => rfl
  | cons m rest ih =>
    obtain ⟨other, old⟩ := m
    have ⟨before, others⟩ := List.forall_mem_cons.1 last
    have after : ¬ name < other := String.lt_asymm before
    have differs : name ≠ other := fun same => String.lt_irrefl _ (same ▸ before)
    simp [insertMember, after, differs, ih others]

theorem mem_insertMember {name : String} {value : Json} {members : Members} {m : String × Json}
    (mem : m ∈ insertMember name value members) : m = (name, value) ∨ m ∈ members := by
  induction members with
  | nil => simpa [insertMember] using mem
  | cons other rest ih =>
    obtain ⟨other, old⟩ := other
    simp only [insertMember] at mem
    split at mem
    · simpa using mem
    · split at mem
      · rcases List.mem_cons.1 mem with same | mem
        · exact .inl same
        · exact .inr (List.mem_cons_of_mem _ mem)
      · rcases List.mem_cons.1 mem with same | mem
        · exact .inr (same ▸ List.mem_cons_self)
        · exact (ih mem).imp_right (List.mem_cons_of_mem _)

/-- Setting a member keeps the order. -/
theorem Sorted.insertMember {name : String} {value : Json} {members : Members}
    (sorted : Sorted members) : Sorted (insertMember name value members) := by
  induction members with
  | nil => simp [Sorted, Json.insertMember]
  | cons other rest ih =>
    obtain ⟨other, old⟩ := other
    have ⟨first, others⟩ := List.pairwise_cons.1 sorted
    simp only [Json.insertMember]
    split
    · rename_i before
      refine List.pairwise_cons.2 ⟨fun next mem => ?_, sorted⟩
      rcases List.mem_cons.1 mem with rfl | mem
      · exact before
      · exact String.lt_trans before (first next mem)
    · rename_i notBefore
      split
      · rename_i same
        exact List.pairwise_cons.2 ⟨same ▸ first, others⟩
      · rename_i differs
        refine List.pairwise_cons.2 ⟨fun next mem => ?_, ih others⟩
        obtain ⟨m, inside, rfl⟩ := List.mem_map.1 mem
        rcases mem_insertMember inside with rfl | inside
        · refine Classical.byContradiction fun notAfter => differs ?_
          exact String.le_antisymm (String.not_lt.1 notAfter) (String.not_lt.1 notBefore)
        · exact first m.1 (List.mem_map_of_mem inside)

theorem wellFormedIn_iff {depth : Nat} {members : Members} :
    WellFormedIn depth members ↔ ∀ m ∈ members, WellFormed depth m.2 := by
  induction members with
  | nil => simp [WellFormedIn]
  | cons m rest ih => simp [WellFormedIn, ih]

theorem noDoublesIn_iff {members : Members} :
    NoDoublesIn members ↔ ∀ m ∈ members, NoDoubles m.2 := by
  induction members with
  | nil => simp [NoDoublesIn]
  | cons m rest ih => simp [NoDoublesIn, ih]

/-! ## Reading back -/

mutual

/-- The tree of a well-formed value without doubles means that value. -/
theorem ofTree?_treeOf : ∀ (depth : Nat) (value : Json), WellFormed depth value → NoDoubles value →
    ofTree? depth (treeOf value) = some value
  | _, .null, _, _ => rfl
  | _, .bool _, _, _ => rfl
  | _, .number (.int value), formed, _ => by
    simp [treeOf, ofTree?, Number.ofNumeral?_render formed]
  | _, .string text, _, _ => by
    simp [treeOf, ofTree?]
  | depth + 1, .array elements, formed, plain => by
    have inside := ofTrees?_treesOf depth elements formed plain
    simp [treeOf, ofTree?, inside]
  | depth + 1, .object members, formed, plain => by
    have inside := ofMembers?_membersOf depth members [] formed.2 plain formed.1
    simp [treeOf, ofTree?, inside]

/-- The trees of well-formed values without doubles mean these. -/
theorem ofTrees?_treesOf : ∀ (depth : Nat) (values : List Json), WellFormedAmong depth values →
    NoDoublesAmong values → ofTrees? depth (treesOf values) = some values
  | _, [], _, _ => rfl
  | depth, value :: rest, formed, plain => by
    have first := ofTree?_treeOf depth value formed.1 plain.1
    have others := ofTrees?_treesOf depth rest formed.2 plain.2
    simp [treesOf, ofTrees?, first, others]

/-- The trees of well-formed members without doubles are set in their order. -/
theorem ofMembers?_membersOf : ∀ (depth : Nat) (members found : Members),
    WellFormedIn depth members → NoDoublesIn members → Sorted (found ++ members) →
      ofMembers? depth (membersOf members) found = some (found ++ members)
  | _, [], found, _, _, _ => by simp [membersOf, ofMembers?]
  | depth, (name, value) :: rest, found, formed, plain, sorted => by
    have first := ofTree?_treeOf depth value formed.1 plain.1
    have others := ofMembers?_membersOf depth rest (found ++ [(name, value)]) formed.2 plain.2
      (by simpa using sorted)
    have last : ∀ m ∈ found, m.1 < name := by
      intro m mem
      rw [Sorted, List.map_append, List.pairwise_append] at sorted
      exact sorted.2.2 m.1 (List.mem_map_of_mem mem) name (by simp)
    simp [membersOf, ofMembers?, first, insertMember_of_last last, others]

end

/-! ## What parsing gives -/

theorem Number.gather_le {n : Nat} (small : n ≤ maxGathered) (digits : Bytes) :
    (gather n digits).1 ≤ maxGathered := by
  induction digits generalizing n with
  | nil => exact small
  | cons b rest ih =>
    simp only [gather]
    split
    · rename_i fits
      exact ih fits
    · exact small

theorem Number.fits_natural {n : Nat} (small : n ≤ maxGathered) : Fits n :=
  ⟨small, fun negative => absurd negative (Int.not_lt.2 (Int.natCast_nonneg n))⟩

theorem Number.fits_negative {n : Nat} (small : n ≤ Nat.pow 2 63) : Fits (-n) := by
  have size : (-(n : Int)).natAbs = n := by omega
  have most : Nat.pow 2 63 ≤ maxGathered := by decide
  rw [Fits, size]
  exact ⟨Nat.le_trans small most, fun _ => small⟩

/-- An integer that a numeral writes fits. -/
theorem Number.fits_of_ofNumeral? {numeral : Bytes} {value : Int}
    (read : ofNumeral? numeral = some (.int value)) : Fits value := by
  simp only [ofNumeral?] at read
  have small := gather_le (Nat.zero_le maxGathered) ((Tree.minus numeral).2.takeWhile Tree.isDigit)
  generalize (gather 0 ((Tree.minus numeral).2.takeWhile Tree.isDigit)).1 = n at read small
  -- The fraction decides nothing here, but it has to be out of the way.
  split at read <;> split_ifs at read with _ _ within
  all_goals first
    | obtain rfl := Number.int.inj (Option.some.inj read)
    | simp at read
  · exact fits_natural small
  · exact fits_negative (by simpa using (Bool.and_eq_true_iff.1 within).2)
  · exact fits_natural small
  · exact fits_negative (by simpa using (Bool.and_eq_true_iff.1 within).2)

mutual

/-- The value of a tree is well-formed. -/
theorem wellFormed_of_ofTree? : ∀ (depth : Nat) (tree : Tree) (value : Json),
    ofTree? depth tree = some value → WellFormed depth value
  | _, .null, _, rfl => trivial
  | _, .bool _, _, rfl => trivial
  | _, .number numeral, _, read => by
    obtain ⟨number, written, rfl⟩ := Option.map_eq_some_iff.1 read
    cases number with
    | int value => exact Number.fits_of_ofNumeral? written
    | float value => trivial
  | _, .string token, _, read => by
    obtain ⟨text, -, rfl⟩ := Option.map_eq_some_iff.1 read
    trivial
  | depth + 1, .array elements, _, read => by
    obtain ⟨values, inner, rfl⟩ := Option.map_eq_some_iff.1 read
    exact wellFormed_of_ofTrees? depth elements values inner
  | depth + 1, .object members, _, read => by
    obtain ⟨found, inner, rfl⟩ := Option.map_eq_some_iff.1 read
    exact wellFormed_of_ofMembers? depth members [] found ⟨.nil, trivial⟩ inner

/-- The values of trees are well-formed. -/
theorem wellFormed_of_ofTrees? : ∀ (depth : Nat) (trees : List Tree) (values : List Json),
    ofTrees? depth trees = some values → WellFormedAmong depth values
  | _, [], _, rfl => trivial
  | depth, tree :: rest, _, read => by
    simp only [ofTrees?, Option.bind_eq_bind, Option.bind_eq_some_iff] at read
    obtain ⟨value, first, values, others, same⟩ := read
    obtain rfl := Option.some.inj same
    exact ⟨wellFormed_of_ofTree? depth tree value first,
      wellFormed_of_ofTrees? depth rest values others⟩

/-- Members that are set one after the other are in order and well-formed. -/
theorem wellFormed_of_ofMembers? : ∀ (depth : Nat) (trees : List (Bytes × Tree))
    (found members : Members), Sorted found ∧ WellFormedIn depth found →
      ofMembers? depth trees found = some members → Sorted members ∧ WellFormedIn depth members
  | _, [], _, _, formed, rfl => formed
  | depth, (key, tree) :: rest, found, members, formed, read => by
    simp only [ofMembers?, Option.bind_eq_bind, Option.bind_eq_some_iff] at read
    obtain ⟨name, -, value, first, others⟩ := read
    have inner := wellFormed_of_ofTree? depth tree value first
    refine wellFormed_of_ofMembers? depth rest _ members ⟨formed.1.insertMember, ?_⟩ others
    refine wellFormedIn_iff.2 fun m mem => ?_
    rcases mem_insertMember mem with rfl | mem
    · exact inner
    · exact wellFormedIn_iff.1 formed.2 m mem

end

/-! ## Texts without doubles -/

mutual

/-- A tree in which every numeral writes an integer. -/
def Tree.NoDoubles : Tree → Prop
  | .null | .bool _ | .string _ => True
  | .number numeral => ∃ value, Number.ofNumeral? numeral = some (.int value)
  | .array elements => Tree.NoDoublesAmong elements
  | .object members => Tree.NoDoublesIn members

/-- Trees without doubles. -/
def Tree.NoDoublesAmong : List Tree → Prop
  | [] => True
  | tree :: rest => tree.NoDoubles ∧ Tree.NoDoublesAmong rest

/-- Members whose trees are without doubles. -/
def Tree.NoDoublesIn : List (Bytes × Tree) → Prop
  | [] => True
  | (_, tree) :: rest => tree.NoDoubles ∧ Tree.NoDoublesIn rest

end

mutual

/-- A tree without doubles means a value without doubles. -/
theorem noDoubles_of_ofTree? : ∀ (depth : Nat) (tree : Tree) (value : Json),
    tree.NoDoubles → ofTree? depth tree = some value → NoDoubles value
  | _, .null, _, _, rfl => trivial
  | _, .bool _, _, _, rfl => trivial
  | _, .number numeral, _, ⟨value, written⟩, read => by
    obtain ⟨number, written', rfl⟩ := Option.map_eq_some_iff.1 read
    obtain rfl := Option.some.inj (written.symm.trans written')
    trivial
  | _, .string token, _, _, read => by
    obtain ⟨text, -, rfl⟩ := Option.map_eq_some_iff.1 read
    trivial
  | depth + 1, .array elements, _, plain, read => by
    obtain ⟨values, inner, rfl⟩ := Option.map_eq_some_iff.1 read
    exact noDoubles_of_ofTrees? depth elements values plain inner
  | depth + 1, .object members, _, plain, read => by
    obtain ⟨found, inner, rfl⟩ := Option.map_eq_some_iff.1 read
    exact noDoubles_of_ofMembers? depth members [] found plain trivial inner

/-- Trees without doubles mean values without doubles. -/
theorem noDoubles_of_ofTrees? : ∀ (depth : Nat) (trees : List Tree) (values : List Json),
    Tree.NoDoublesAmong trees → ofTrees? depth trees = some values → NoDoublesAmong values
  | _, [], _, _, rfl => trivial
  | depth, tree :: rest, _, plain, read => by
    simp only [ofTrees?, Option.bind_eq_bind, Option.bind_eq_some_iff] at read
    obtain ⟨value, first, values, others, same⟩ := read
    obtain rfl := Option.some.inj same
    exact ⟨noDoubles_of_ofTree? depth tree value plain.1 first,
      noDoubles_of_ofTrees? depth rest values plain.2 others⟩

/-- Members without doubles are set among such. -/
theorem noDoubles_of_ofMembers? : ∀ (depth : Nat) (trees : List (Bytes × Tree))
    (found members : Members), Tree.NoDoublesIn trees → NoDoublesIn found →
      ofMembers? depth trees found = some members → NoDoublesIn members
  | _, [], _, _, _, before, rfl => before
  | depth, (key, tree) :: rest, found, members, plain, before, read => by
    simp only [ofMembers?, Option.bind_eq_bind, Option.bind_eq_some_iff] at read
    obtain ⟨name, -, value, first, others⟩ := read
    have inner := noDoubles_of_ofTree? depth tree value plain.1 first
    refine noDoubles_of_ofMembers? depth rest _ members plain.2 ?_ others
    refine noDoublesIn_iff.2 fun m mem => ?_
    rcases mem_insertMember mem with rfl | mem
    · exact inner
    · exact noDoublesIn_iff.1 before m mem

end

end Latchkey.Json

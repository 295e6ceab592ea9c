import Latchkey.Json.Value
import Latchkey.Proofs.Json.Number
import Latchkey.Proofs.Json.Text
import Mathlib.Tactic.IntervalCases

set_option autoImplicit false

/-! # The tree of a written value

A value without doubles is written as a text whose shape is known (`Json.treeOf`), and reading takes
exactly that text away (`Json.value?_render`). -/

namespace Latchkey.Json

/-! ## Trees of values -/

mutual

/-- The tree of a value as it is written. -/
def treeOf : Json → Tree
  | .null => .null
  | .bool value => .bool value
  | .number value => .number value.render
  | .string value => .string (tokenOf value)
  | .array elements => .array (treesOf elements)
  | .object members => .object (membersOf members)

/-- The trees of values. -/
def treesOf : List Json → List Tree
  | [] => []
  | value :: rest => treeOf value :: treesOf rest

/-- The trees of members. -/
def membersOf : Members → List (Bytes × Tree)
  | [] => []
  | (name, value) :: rest => (tokenOf name, treeOf value) :: membersOf rest

end

mutual

/-- A value in which there is no double. -/
def NoDoubles : Json → Prop
  | .null | .bool _ | .string _ | .number (.int _) => True
  | .number (.float _) => False
  | .array elements => NoDoublesAmong elements
  | .object members => NoDoublesIn members

/-- Values without doubles. -/
def NoDoublesAmong : List Json → Prop
  | [] => True
  | value :: rest => NoDoubles value ∧ NoDoublesAmong rest

/-- Members without doubles. -/
def NoDoublesIn : Members → Prop
  | [] => True
  | (_, value) :: rest => NoDoubles value ∧ NoDoublesIn rest

end

/-! ## First bytes -/

/-- The numeral of an integer begins with a minus or a digit. -/
theorem exists_render_int (value : Int) :
    ∃ b more, (Number.int value).render = b :: more
      ∧ (b = 0x2d ∨ ∃ d, d < 10 ∧ b = Number.digitByte d) := by
  simp only [Number.render]
  split
  · exact ⟨_, _, rfl, .inl rfl⟩
  · obtain ⟨b, more, front⟩ := List.exists_cons_of_ne_nil (Number.natural_ne_nil value.natAbs)
    exact ⟨b, more, front,
      .inr (Number.exists_of_mem_natural (n := value.natAbs) (by simp [front]))⟩

/-- No value begins with white space or a closing bracket. -/
theorem exists_render {value : Json} (plain : NoDoubles value) :
    ∃ b more, render value = b :: more ∧ Tree.isSpace b = false ∧ b ≠ 0x5d := by
  match value, plain with
  | .null, _ => exact ⟨_, _, rfl, rfl, by decide⟩
  | .bool true, _ => exact ⟨_, _, rfl, rfl, by decide⟩
  | .bool false, _ => exact ⟨_, _, rfl, rfl, by decide⟩
  | .number (.int value), _ =>
    obtain ⟨b, more, front, which⟩ := exists_render_int value
    refine ⟨b, more, front, ?_⟩
    rcases which with rfl | ⟨d, small, rfl⟩
    · exact ⟨rfl, by decide⟩
    · clear front
      revert d
      decide
  | .string text, _ => exact ⟨_, _, rfl, rfl, by decide⟩
  | .array elements, _ => exact ⟨_, _, rfl, rfl, by decide⟩
  | .object members, _ => exact ⟨_, _, rfl, rfl, by decide⟩

theorem exists_renderElements {first : Json} {more : List Json}
    (plain : NoDoublesAmong (first :: more)) :
    ∃ b text, renderElements (first :: more) = b :: text ∧ Tree.isSpace b = false ∧ b ≠ 0x5d := by
  obtain ⟨b, text, front, space, filled⟩ := exists_render plain.1
  cases more with
  | nil => exact ⟨b, text, front, space, filled⟩
  | cons second more =>
    exact ⟨b, text ++ 0x2c :: renderElements (second :: more), by simp [renderElements, front],
      space, filled⟩

theorem exists_renderMembers (name : String) (value : Json) (more : Members) :
    ∃ text, renderMembers ((name, value) :: more) = 0x22 :: text := by
  cases more with
  | nil => exact ⟨_, rfl⟩
  | cons second more => exact ⟨_, rfl⟩

/-- A comma or a closing bracket or brace ends a numeral. -/
theorem ends_cons {b : UInt8} (stop : b = 0x2c ∨ b = 0x5d ∨ b = 0x7d) (rest : Bytes) :
    Number.Ends (b :: rest) := by
  rintro _ ⟨⟩
  rcases stop with rfl | rfl | rfl <;> decide

/-! ## Reading -/

/-- What starts like a number is read as a number. -/
theorem value?_of_start {b : UInt8} (start : b = 0x2d ∨ ∃ d < 10, b = Number.digitByte d)
    (fuel : Nat) (text : Bytes) :
    Tree.value? (fuel + 1) (b :: text)
      = (Tree.numeral? (b :: text)).map fun (numeral, rest) => (.number numeral, rest) := by
  rcases start with rfl | ⟨d, small, rfl⟩
  · rfl
  · interval_cases d <;> rfl

theorem value?_number (value : Int) (fuel : Nat) {rest : Bytes} (ends : Number.Ends rest) :
    Tree.value? (fuel + 1) ((Number.int value).render ++ rest)
      = some (.number (Number.int value).render, rest) := by
  have numeral := Number.numeral?_render value ends
  obtain ⟨b, more, front, which⟩ := exists_render_int value
  rw [front, List.cons_append] at numeral ⊢
  rw [value?_of_start which, numeral]
  rfl

theorem value?_string (text : String) (fuel : Nat) (rest : Bytes) :
    Tree.value? (fuel + 1) (quote text ++ rest) = some (.string (tokenOf text), rest) := by
  simp only [quote, List.cons_append, List.append_assoc, List.nil_append]
  show (Tree.token? (tokenOf text ++ 0x22 :: rest)).map _ = _
  rw [token?_tokenOf]
  rfl

theorem value?_bracket (fuel : Nat) (text : Bytes) :
    Tree.value? (fuel + 1) (0x5b :: text)
      = match Tree.skipSpace text with
        | 0x5d :: rest => some (.array [], rest)
        | rest => (Tree.elements? fuel rest).map fun (elements, rest) => (.array elements, rest) :=
  rfl

theorem value?_array {b : UInt8} (fuel : Nat) (text : Bytes) (space : Tree.isSpace b = false)
    (filled : b ≠ 0x5d) :
    Tree.value? (fuel + 1) (0x5b :: b :: text)
      = (Tree.elements? fuel (b :: text)).map fun (elements, rest) => (.array elements, rest) := by
  have skip : Tree.skipSpace (b :: text) = b :: text := by simp [Tree.skipSpace, space]
  rw [value?_bracket, skip]
  split
  · rename_i same
    exact absurd (List.cons.inj same).1 filled
  · rfl

/-- A member is a token, a colon and a value, and then there may be more members. -/
theorem members?_token (fuel : Nat) (text : Bytes) :
    Tree.members? (fuel + 1) (0x22 :: text)
      = match Tree.token? text with
        | none => none
        | some (key, rest) =>
          match Tree.skipSpace rest with
          | 0x3a :: rest =>
            match Tree.value? fuel rest with
            | none => none
            | some (value, rest) =>
              match Tree.skipSpace rest with
              | 0x7d :: rest => some ([(key, value)], rest)
              | 0x2c :: rest =>
                (Tree.members? fuel rest).map fun (more, rest) => ((key, value) :: more, rest)
              | _ => none
          | _ => none :=
  rfl

theorem members?_quote (name : String) (fuel : Nat) (text : Bytes) :
    Tree.members? (fuel + 1) (quote name ++ 0x3a :: text)
      = match Tree.value? fuel text with
        | none => none
        | some (value, rest) =>
          match Tree.skipSpace rest with
          | 0x7d :: rest => some ([(tokenOf name, value)], rest)
          | 0x2c :: rest =>
            (Tree.members? fuel rest).map fun (more, rest) => ((tokenOf name, value) :: more, rest)
          | _ => none := by
  have token := token?_tokenOf name (0x3a :: text)
  simp only [quote, List.cons_append, List.append_assoc, List.nil_append]
  rw [members?_token, token]
  rfl

/-- With so much fuel, reading takes written values whole. -/
def ReadsValues (fuel : Nat) : Prop :=
  ∀ value rest, NoDoubles value → (render value).length < fuel → Number.Ends rest →
    Tree.value? fuel (render value ++ rest) = some (treeOf value, rest)

/-- With so much fuel, reading takes written elements whole, and the bracket behind them. -/
def ReadsElements (fuel : Nat) : Prop :=
  ∀ first more rest, NoDoublesAmong (first :: more) →
    (renderElements (first :: more)).length + 1 < fuel →
      Tree.elements? fuel (renderElements (first :: more) ++ 0x5d :: rest)
        = some (treesOf (first :: more), rest)

/-- With so much fuel, reading takes written members whole, and the brace behind them. -/
def ReadsMembers (fuel : Nat) : Prop :=
  ∀ name value more rest, NoDoublesIn ((name, value) :: more) →
    (renderMembers ((name, value) :: more)).length + 1 < fuel →
      Tree.members? fuel (renderMembers ((name, value) :: more) ++ 0x7d :: rest)
        = some (membersOf ((name, value) :: more), rest)

variable {fuel : Nat}

theorem ReadsValues.succ (elements : ReadsElements fuel) (members : ReadsMembers fuel) :
    ReadsValues (fuel + 1) := by
  intro value rest plain enough ends
  match value, plain with
  | .null, _ => rfl
  | .bool true, _ => rfl
  | .bool false, _ => rfl
  | .number (.int value), _ => exact value?_number value fuel ends
  | .string text, _ => exact value?_string text fuel rest
  | .array [], _ => rfl
  | .array (first :: more), plain =>
    have inside := elements first more rest plain (by simpa [render] using enough)
    obtain ⟨b, text, front, space, filled⟩ := exists_renderElements plain
    simp only [render, List.cons_append, List.append_assoc, List.nil_append]
    rw [front, List.cons_append] at inside ⊢
    rw [value?_array fuel _ space filled, inside]
    rfl
  | .object [], _ => rfl
  | .object ((name, value) :: more), plain =>
    have inside := members name value more rest plain (by simpa [render] using enough)
    obtain ⟨text, front⟩ := exists_renderMembers name value more
    simp only [render, List.cons_append, List.append_assoc, List.nil_append]
    rw [front, List.cons_append] at inside ⊢
    show (Tree.members? fuel _).map _ = _
    rw [inside]
    rfl

theorem ReadsElements.succ (values : ReadsValues fuel) (elements : ReadsElements fuel) :
    ReadsElements (fuel + 1) := by
  intro first more rest plain enough
  cases more with
  | nil =>
    have value := values first (0x5d :: rest) plain.1 (by simpa [renderElements] using enough)
      (ends_cons (by simp) rest)
    simp only [renderElements, Tree.elements?, value]
    rfl
  | cons second more =>
    obtain ⟨b, text, front, -, -⟩ := exists_render plain.1
    -- A value takes up room, so that one unit of fuel less is enough for the others.
    have some : 0 < (render first).length := by simp [front]
    simp only [renderElements, List.length_append, List.length_cons] at enough
    have value := values first (0x2c :: (renderElements (second :: more) ++ 0x5d :: rest)) plain.1
      (by omega) (ends_cons (by simp) _)
    have others := elements second more rest plain.2 (by omega)
    simp only [renderElements, List.append_assoc, List.cons_append, Tree.elements?, value]
    show (Tree.elements? fuel _).map _ = _
    rw [others]
    rfl

theorem ReadsMembers.succ (values : ReadsValues fuel) (members : ReadsMembers fuel) :
    ReadsMembers (fuel + 1) := by
  intro name value more rest plain enough
  cases more with
  | nil =>
    simp only [renderMembers, List.length_append, List.length_cons] at enough
    have value := values value (0x7d :: rest) plain.1 (by omega) (ends_cons (by simp) rest)
    simp only [renderMembers, List.append_assoc, List.cons_append]
    rw [members?_quote, value]
    rfl
  | cons second more =>
    obtain ⟨next, nextValue⟩ := second
    simp only [renderMembers, List.length_append, List.length_cons] at enough
    have value := values value (0x2c :: (renderMembers ((next, nextValue) :: more) ++ 0x7d :: rest))
      plain.1 (by omega) (ends_cons (by simp) _)
    have others := members next nextValue more rest plain.2 (by omega)
    simp only [renderMembers, List.append_assoc, List.cons_append]
    rw [members?_quote, value]
    show (Tree.members? fuel _).map _ = _
    rw [others]
    rfl

theorem reads (fuel : Nat) : ReadsValues fuel ∧ ReadsElements fuel ∧ ReadsMembers fuel := by
  induction fuel with
  | zero =>
    refine ⟨fun _ _ _ enough => ?_, fun _ _ _ _ enough => ?_, fun _ _ _ _ _ enough => ?_⟩
      <;> exact absurd enough (Nat.not_lt_zero _)
  | succ fuel ih =>
    obtain ⟨values, elements, members⟩ := ih
    exact ⟨.succ elements members, .succ values elements, .succ values members⟩

/-- The text of a value without doubles is read as that value's tree. -/
theorem parse?_render {value : Json} (plain : NoDoubles value) :
    Tree.parse? (render value) = some (treeOf value) := by
  have whole := (reads ((render value).length + 1)).1 value [] plain (Nat.lt_succ_self _)
    Number.ends_nil
  rw [List.append_nil] at whole
  rw [Tree.parse?, whole]
  rfl

/-! ## Reading the front of a text -/

/-- Whatever the last members are, those without doubles in front of them are read as they are. -/
theorem members?_front {front more : Members} (plain : NoDoublesIn front) {fuel : Nat}
    {rest left : Bytes} {found : List (Bytes × Tree)}
    (enough : (renderMembers (front ++ more)).length + 1 < fuel)
    (read : Tree.members? fuel (renderMembers (front ++ more) ++ 0x7d :: rest)
      = some (found, left)) : ∃ others, found = membersOf front ++ others := by
  induction front generalizing fuel found with
  | nil => exact ⟨found, rfl⟩
  | cons m front ih =>
    obtain ⟨name, value⟩ := m
    obtain ⟨fuel, rfl⟩ : ∃ less, fuel = less + 1 := ⟨fuel - 1, by omega⟩
    rw [List.cons_append] at enough read
    cases others : front ++ more with
    | nil =>
      obtain ⟨rfl, rfl⟩ := List.append_eq_nil_iff.1 others
      simp only [others, renderMembers, List.length_append, List.length_cons] at enough
      simp only [others, renderMembers, List.append_assoc, List.cons_append] at read
      rw [members?_quote, (reads fuel).1 value _ plain.1 (by omega) (ends_cons (by simp) rest)]
        at read
      obtain ⟨rfl, -⟩ := Prod.mk.inj (Option.some.inj read)
      exact ⟨[], rfl⟩
    | cons second others' =>
      rw [others] at ih
      simp only [others, renderMembers, List.length_append, List.length_cons] at enough
      simp only [others, renderMembers, List.append_assoc, List.cons_append] at read
      rw [members?_quote, (reads fuel).1 value _ plain.1 (by omega) (ends_cons (by simp) _)]
        at read
      change (Tree.members? fuel _).map _ = _ at read
      obtain ⟨⟨found', left'⟩, inside, same⟩ := Option.map_eq_some_iff.1 read
      obtain ⟨rfl, rfl⟩ := Prod.mk.inj same
      obtain ⟨others'', rfl⟩ := ih plain.2 (by omega) inside
      exact ⟨others'', rfl⟩

/-- An object is read as one whose front is that of the object, if there is no double in that. -/
theorem exists_of_parse?_render {m : String × Json} {front more : Members}
    (plain : NoDoublesIn (m :: front)) {tree : Tree}
    (read : Tree.parse? (render (.object (m :: front ++ more))) = some tree) :
    ∃ others, tree = .object (membersOf (m :: front) ++ others) := by
  obtain ⟨name, first⟩ := m
  obtain ⟨text, begins⟩ := exists_renderMembers name first (front ++ more)
  unfold Tree.parse? at read
  split at read
  · rename_i tree' rest value
    have enough : (renderMembers ((name, first) :: front ++ more)).length + 1
        < (render (.object ((name, first) :: front ++ more))).length := by
      simp [render]
    generalize (render (.object ((name, first) :: front ++ more))).length = fuel at value enough
    simp only [render, List.cons_append, begins] at value
    change (Tree.members? fuel _).map _ = _ at value
    obtain ⟨⟨found, left⟩, inside, same⟩ := Option.map_eq_some_iff.1 value
    rw [← List.cons_append, ← begins] at inside
    obtain ⟨others, rfl⟩ := members?_front plain enough inside
    obtain ⟨rfl, rfl⟩ := Prod.mk.inj same
    split at read
    · exact ⟨others, (Option.some.inj read).symm⟩
    · simp at read
  · simp at read

end Latchkey.Json

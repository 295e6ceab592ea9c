import Latchkey.Proofs.Uuid
import Mathlib.Data.List.Lex

set_option autoImplicit false

/-! # The order of identifiers as text

A database that keeps identifiers as text compares their characters, case set aside, with digits
before letters. That is the order of their numbers (`Collation.weights_toText_lt_iff`), so a listing
by descending text is one by descending number (`Collation.newestFirst`). -/

namespace Latchkey

/-! ## Digits written one after the other -/

namespace Uuid

variable {xs ys : List Nat} {widths : List Nat} {digits digits' : List Char}

/-- Of lists that begin with equally many members, those decide first. -/
theorem append_lt_append_iff (same : xs.length = ys.length) (s t : List Nat) :
    xs ++ s < ys ++ t ↔ xs < ys ∨ xs = ys ∧ s < t := by
  induction xs generalizing ys with
  | nil =>
    obtain rfl := List.eq_nil_of_length_eq_zero same.symm
    simp
  | cons x xs ih =>
    cases ys with
    | nil => simp at same
    | cons y ys =>
      have rest := ih (show xs.length = ys.length by simpa using same)
      simp only [List.cons_append, List.cons_lt_cons_iff, rest, List.cons.injEq]
      tauto

/-- Numbers of equally many digits are in the order of their digits, if these rise in weight. -/
theorem map_hexDigits_lt {weight : Char → Nat}
    (rises : ∀ a b, a < b → b < 16 → weight (hexDigit a) < weight (hexDigit b)) {width m n : Nat}
    (lt : m < n) (small : n < Nat.pow 16 width) :
    (hexDigits width m).map weight < (hexDigits width n).map weight := by
  induction width generalizing m n with
  | zero =>
    rw [Nat.pow_eq, Nat.pow_zero] at small
    omega
  | succ width ih =>
    rw [Nat.pow_eq, Nat.pow_succ] at small
    have length : ((hexDigits width (m / 16)).map weight).length
        = ((hexDigits width (n / 16)).map weight).length := by simp
    rw [hexDigits, hexDigits, List.map_append, List.map_append, append_lt_append_iff length]
    -- The last digit only decides between numbers that agree in the digits before it.
    by_cases higher : m / 16 < n / 16
    · exact .inl (ih higher (Nat.div_lt_of_lt_mul (by rwa [Nat.mul_comm])))
    · have same : m / 16 = n / 16 := by omega
      refine .inr ⟨by rw [same], ?_⟩
      simpa [List.cons_lt_cons_iff] using
        rises (m % 16) (n % 16) (by omega) (Nat.mod_lt n (by decide))

/-- Hyphens stand in the same places, and so decide nothing. -/
theorem map_joinGroups_lt {weight : Char → Nat} (length : digits.length = widths.sum)
    (length' : digits'.length = widths.sum) (lt : digits.map weight < digits'.map weight) :
    (joinGroups widths digits).map weight < (joinGroups widths digits').map weight := by
  induction widths generalizing digits digits' with
  | nil =>
    obtain rfl := List.eq_nil_of_length_eq_zero length'
    simp at lt
  | cons width rest ih =>
    cases rest with
    | nil => exact lt
    | cons next rest =>
      rw [List.sum_cons] at length length'
      have group : ((digits.take width).map weight).length
          = ((digits'.take width).map weight).length := by
        rw [List.length_map, List.length_map, List.length_take, List.length_take]
        omega
      rw [← List.take_append_drop width digits, ← List.take_append_drop width digits',
        List.map_append, List.map_append, append_lt_append_iff group] at lt
      simp only [joinGroups, List.map_append, List.map_cons, append_lt_append_iff group]
      rcases lt with lt | ⟨same, lt⟩
      · exact .inl lt
      · refine .inr ⟨same, List.cons_lt_cons_iff.2 (.inr ⟨rfl, ?_⟩)⟩
        refine ih ?_ ?_ lt <;> rw [List.length_drop] <;> omega

theorem length_hexDigits_toNat (u : Uuid) : (hexDigits 32 u.toNat).length = groupWidths.sum :=
  length_hexDigits 32 u.toNat

end Uuid

/-! ## Collations -/

/-- How a database compares texts: character by character, by the weights of the characters. -/
structure Collation where
  weight : Char → Nat
  /-- Case makes no difference. -/
  ignoresCase : ∀ a : Char, weight a.toLower = weight a
  digits_rise : ∀ a b : Char, '0' ≤ a → a < b → b ≤ '9' → weight a < weight b
  letters_rise : ∀ a b : Char, 'a' ≤ a → a < b → b ≤ 'z' → weight a < weight b
  /-- Digits and the hyphen come before the letters. -/
  before_letters : ∀ a b : Char, '0' ≤ a ∧ a ≤ '9' ∨ a = '-' → 'a' ≤ b → b ≤ 'z' →
    weight a < weight b

namespace Collation

variable (c : Collation) {u v : Uuid}

/-- What decides how a text compares with others. -/
def weights (text : String) : List Nat :=
  text.toList.map c.weight

theorem weight_hexDigit_lt {a b : Nat} (lt : a < b) (small : b < 16) :
    c.weight (Uuid.hexDigit a) < c.weight (Uuid.hexDigit b) := by
  have digit : ∀ d < 10, '0' ≤ Uuid.hexDigit d ∧ Uuid.hexDigit d ≤ '9' := by decide
  have letter : ∀ d < 16, 10 ≤ d → 'a' ≤ Uuid.hexDigit d ∧ Uuid.hexDigit d ≤ 'z' := by decide
  have rises : ∀ b < 16, ∀ a < b, Uuid.hexDigit a < Uuid.hexDigit b := by decide
  by_cases last : b < 10
  · exact c.digits_rise _ _ (digit a (by omega)).1 (rises b small a lt) (digit b last).2
  have ⟨above, below⟩ := letter b small (by omega)
  by_cases first : a < 10
  · exact c.before_letters _ _ (.inl (digit a first)) above below
  · exact c.letters_rise _ _ (letter a (by omega) (by omega)).1 (rises b small a lt) below

theorem weights_toText_lt (lt : u.toNat < v.toNat) : c.weights u.toText < c.weights v.toText := by
  simp only [weights, Uuid.toText, String.toList_ofList, Uuid.toChars]
  refine Uuid.map_joinGroups_lt u.length_hexDigits_toNat v.length_hexDigits_toNat ?_
  refine Uuid.map_hexDigits_lt (fun a b => c.weight_hexDigit_lt) lt ?_
  exact v.toNat_lt

/-- Identifiers as text are in the order of the identifiers. -/
theorem weights_toText_lt_iff :
    c.weights u.toText < c.weights v.toText ↔ u.toNat < v.toNat := by
  -- Both orders are linear, so it is enough that one of them goes along with the other.
  refine ⟨fun lt => ?_, c.weights_toText_lt⟩
  rcases Nat.lt_trichotomy u.toNat v.toNat with less | same | more
  · exact less
  · rw [Uuid.toNat_injective same] at lt
    exact absurd lt (lt_irrefl _)
  · exact absurd lt (lt_asymm (c.weights_toText_lt more))

theorem weights_toText_le_iff :
    c.weights u.toText ≤ c.weights v.toText ↔ u.toNat ≤ v.toNat := by
  rw [← not_lt, c.weights_toText_lt_iff, Nat.not_lt]

/-- Different identifiers never count as the same text. -/
theorem weights_toText_eq_iff : c.weights u.toText = c.weights v.toText ↔ u = v := by
  refine ⟨fun same => Uuid.toNat_injective (Nat.le_antisymm ?_ ?_), fun same => by rw [same]⟩
  · exact c.weights_toText_le_iff.1 same.le
  · exact c.weights_toText_le_iff.1 same.ge

/-! ## Listings -/

/-- A limit may be lowered to one that the list does not reach. -/
theorem take_min {α : Type} {list : List α} {most : Nat} (few : list.length ≤ most) (limit : Nat) :
    list.take (min limit most) = list.take limit := by
  rw [← List.take_take, List.take_of_length_le few]

/-- Identifiers listed by descending text are listed by descending number. -/
theorem newestFirst (ids : List Uuid) :
    (ids.map Uuid.toText).mergeSort (fun s t => c.weights t ≤ c.weights s)
      = (ids.mergeSort fun u v => v.toNat ≤ u.toNat).map Uuid.toText := by
  refine (List.map_mergeSort fun u _ v _ => ?_).symm
  exact decide_eq_decide.2 c.weights_toText_le_iff.symm

/-- So are the first of them, up to a limit; one beyond `most` may be lowered to that, if there are
    no more identifiers than that. -/
theorem newestFirst_take (ids : List Uuid) {limit most : Nat}
    (few : limit ≤ most ∨ ids.length ≤ most) :
    ((ids.map Uuid.toText).mergeSort fun s t => c.weights t ≤ c.weights s).take (min limit most)
      = ((ids.mergeSort fun u v => v.toNat ≤ u.toNat).take limit).map Uuid.toText := by
  rw [newestFirst, ← List.map_take]
  rcases few with within | few
  · rw [Nat.min_eq_left within]
  · rw [take_min (by rwa [List.length_mergeSort])]

/-! ## By code -/

/-- The code of a character, and of a capital that of the small letter. -/
def foldedCode (a : Char) : Nat :=
  if 65 ≤ a.toNat ∧ a.toNat ≤ 90 then a.toNat + 32 else a.toNat

theorem toNat_toLower (a : Char) : a.toLower.toNat = foldedCode a := by
  unfold Char.toLower foldedCode
  by_cases capital : 65 ≤ a.toNat ∧ a.toNat ≤ 90
  · have small : a.toNat + 32 < 2 ^ 32 := by omega
    rw [dif_pos (show a.val ≥ 'A'.val ∧ a.val ≤ 'Z'.val from capital), if_pos capital, Char.toNat,
      UInt32.toNat_add]
    exact Nat.mod_eq_of_lt small
  · rw [dif_neg (show ¬ (a.val ≥ 'A'.val ∧ a.val ≤ 'Z'.val) from capital), if_neg capital]

theorem foldedCode_toLower (a : Char) : foldedCode a.toLower = foldedCode a := by
  have range : ¬ (65 ≤ foldedCode a ∧ foldedCode a ≤ 90) := by
    unfold foldedCode
    split <;> omega
  rw [foldedCode, toNat_toLower, if_neg range]

/-- Outside of the capitals the order is that of the codes. -/
theorem foldedCode_lt {a b : Char} (plain : a.toNat < 65 ∨ 90 < a.toNat)
    (plain' : b.toNat < 65 ∨ 90 < b.toNat) (lt : a.toNat < b.toNat) :
    foldedCode a < foldedCode b := by
  rw [foldedCode, foldedCode, if_neg (by omega), if_neg (by omega)]
  exact lt

/-- Characters compare by their codes, and capitals as small letters. -/
def folded : Collation where
  weight := foldedCode
  ignoresCase := foldedCode_toLower
  digits_rise a b first lt last := by
    have last : b.toNat ≤ 57 := last
    have lt : a.toNat < b.toNat := lt
    exact foldedCode_lt (by omega) (by omega) lt
  letters_rise a b first lt last := by
    have first : 97 ≤ a.toNat := first
    have lt : a.toNat < b.toNat := lt
    exact foldedCode_lt (by omega) (by omega) lt
  before_letters a b early first last := by
    have first : 97 ≤ b.toNat := first
    have early : a.toNat ≤ 57 := by
      rcases early with digit | rfl
      · exact digit.2
      · decide
    exact foldedCode_lt (by omega) (by omega) (by omega)

end Collation

end Latchkey

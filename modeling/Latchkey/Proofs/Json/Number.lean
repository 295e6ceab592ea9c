import Latchkey.Json.Number
import Mathlib.Data.List.TakeWhile

set_option autoImplicit false

/-! # Integers in JSON read back

The numeral of an integer ends before anything that cannot go on with it, and writes that integer as
long as this fits 64 bits (`Json.Number.numeral?_render`, `Json.Number.ofNumeral?_render`). -/

namespace Latchkey.Json.Number

/-! ## Decimal digits -/

/-- The byte of a digit. -/
def digitByte (d : Nat) : UInt8 :=
  UInt8.ofNat (Nat.digitChar d).toNat

theorem isDigit_digitByte {d : Nat} (small : d < 10) : Tree.isDigit (digitByte d) = true := by
  revert d
  decide

theorem digitValue_digitByte {d : Nat} (small : d < 10) : digitValue (digitByte d) = d := by
  revert d
  decide

theorem eq_zero_of_digitByte {d : Nat} (small : d < 10) (zero : digitByte d = 0x30) : d = 0 := by
  revert d
  decide

theorem natural_of_lt {n : Nat} (small : n < 10) : natural n = [digitByte n] := by
  rw [natural, Nat.toDigits_of_lt_base small]
  rfl

theorem natural_of_le {n : Nat} (large : 10 ≤ n) :
    natural n = natural (n / 10) ++ [digitByte (n % 10)] := by
  rw [natural, Nat.toDigits_of_base_le (by decide) large]
  simp [natural, digitByte]

theorem natural_ne_nil (n : Nat) : natural n ≠ [] := by
  by_cases small : n < 10
  · simp [natural_of_lt small]
  · simp [natural_of_le (Nat.not_lt.1 small)]

theorem exists_of_mem_natural {n : Nat} {b : UInt8} (mem : b ∈ natural n) :
    ∃ d, d < 10 ∧ b = digitByte d := by
  induction n using Nat.strongRecOn with
  | _ n ih =>
    by_cases small : n < 10
    · rw [natural_of_lt small, List.mem_singleton] at mem
      exact ⟨n, small, mem⟩
    · rw [natural_of_le (Nat.not_lt.1 small)] at mem
      rcases List.mem_append.1 mem with mem | mem
      · exact ih (n / 10) (by omega) mem
      · exact ⟨n % 10, Nat.mod_lt n (by decide), List.mem_singleton.1 mem⟩

theorem isDigit_of_mem_natural {n : Nat} {b : UInt8} (mem : b ∈ natural n) :
    Tree.isDigit b = true := by
  obtain ⟨d, small, rfl⟩ := exists_of_mem_natural mem
  exact isDigit_digitByte small

/-- Only zero is written with a zero in front. -/
theorem eq_zero_of_head?_natural {n : Nat} (zero : (natural n).head? = some 0x30) : n = 0 := by
  induction n using Nat.strongRecOn with
  | _ n ih =>
    by_cases small : n < 10
    · rw [natural_of_lt small] at zero
      exact eq_zero_of_digitByte small (Option.some.inj zero)
    · obtain ⟨b, rest, front⟩ := List.exists_cons_of_ne_nil (natural_ne_nil (n / 10))
      rw [natural_of_le (Nat.not_lt.1 small), front] at zero
      have none := ih (n / 10) (by omega) (by rw [front]; exact zero)
      omega

theorem gather_append {k m : Nat} {digits : Bytes} {b : UInt8} (all : gather k digits = (m, []))
    (fits : 10 * m + digitValue b ≤ maxGathered) :
    gather k (digits ++ [b]) = (10 * m + digitValue b, []) := by
  induction digits generalizing k with
  | nil =>
    obtain rfl : k = m := (Prod.mk.inj all).1
    simp [gather, fits]
  | cons d rest ih =>
    simp only [gather] at all
    split at all
    · rename_i fit
      simp only [List.cons_append, gather, fit, if_true]
      exact ih all
    · simp at all

theorem gather_natural {n : Nat} (fits : n ≤ maxGathered) : gather 0 (natural n) = (n, []) := by
  induction n using Nat.strongRecOn with
  | _ n ih =>
    by_cases small : n < 10
    · have value := digitValue_digitByte small
      simp [natural_of_lt small, gather, value, fits]
    · have value := digitValue_digitByte (Nat.mod_lt n (by decide))
      have before := ih (n / 10) (by omega) (by omega)
      have whole : 10 * (n / 10) + digitValue (digitByte (n % 10)) = n := by omega
      rw [natural_of_le (Nat.not_lt.1 small), gather_append before (by omega), whole]

/-- If all digits are gathered, so are all but the last, and the number with the last one fits. -/
theorem exists_gather_of_append {k m : Nat} {digits : Bytes} {b : UInt8}
    (all : gather k (digits ++ [b]) = (m, [])) :
    ∃ n, gather k digits = (n, []) ∧ 10 * n + digitValue b ≤ maxGathered := by
  induction digits generalizing k with
  | nil =>
    simp only [List.nil_append, gather] at all
    split at all
    · exact ⟨k, rfl, ‹_›⟩
    · simp at all
  | cons d rest ih =>
    simp only [List.cons_append, gather] at all ⊢
    split at all
    · rename_i fit
      simpa only [fit, if_true] using ih all
    · simp at all

/-- Only a number that fits is gathered whole. -/
theorem le_of_gather_natural {n m : Nat} (all : gather 0 (natural n) = (m, [])) :
    n ≤ maxGathered := by
  induction n using Nat.strongRecOn generalizing m with
  | _ n ih =>
    by_cases small : n < 10
    · exact Nat.le_trans (Nat.le_of_lt small) (by decide)
    · have value := digitValue_digitByte (Nat.mod_lt n (by decide : 0 < 10))
      rw [natural_of_le (Nat.not_lt.1 small)] at all
      obtain ⟨k, before, fits⟩ := exists_gather_of_append all
      have less := ih (n / 10) (by omega) before
      obtain rfl : n / 10 = k := congrArg Prod.fst ((gather_natural less).symm.trans before)
      omega

/-! ## Numerals -/

/-- What comes after a numeral cannot go on with it. -/
def Ends (text : Bytes) : Prop :=
  ∀ b, text.head? = some b →
    Tree.isDigit b = false ∧ b ≠ 0x2e ∧ b ≠ 0x65 ∧ b ≠ 0x45

theorem ends_nil : Ends [] := by
  simp [Ends]

theorem takeWhile_natural_append (n : Nat) {rest : Bytes} (ends : Ends rest) :
    (natural n ++ rest).takeWhile Tree.isDigit = natural n := by
  rw [List.takeWhile_append_of_pos fun b mem => isDigit_of_mem_natural mem]
  cases rest with
  | nil => simp
  | cons b rest => simp [(ends b rfl).1]

theorem whole?_natural {n : Nat} {rest : Bytes} (ends : Ends rest) :
    Tree.whole? (natural n ++ rest) = some (natural n, rest) := by
  have digits : Tree.digits? (natural n ++ rest) = some (natural n, rest) := by
    simp [Tree.digits?, takeWhile_natural_append _ ends, natural_ne_nil]
  rw [Tree.whole?, digits]
  split
  · rename_i b more _ same
    have front : natural n = 0x30 :: b :: more := (Prod.mk.inj (Option.some.inj same)).1
    obtain rfl : n = 0 := eq_zero_of_head?_natural (by rw [front]; rfl)
    simp [natural_of_lt] at front
  · rfl

theorem fraction?_of_ends {rest : Bytes} (ends : Ends rest) :
    Tree.fraction? rest = some ([], rest) := by
  unfold Tree.fraction?
  split
  · exact absurd rfl (ends _ rfl).2.1
  · rfl

theorem exponent?_of_ends {rest : Bytes} (ends : Ends rest) :
    Tree.exponent? rest = some ([], rest) := by
  cases rest with
  | nil => rfl
  | cons b rest =>
    obtain ⟨-, -, small, large⟩ := ends b rfl
    simp [Tree.exponent?, small, large]

theorem minus_natural (n : Nat) (rest : Bytes) :
    Tree.minus (natural n ++ rest) = ([], natural n ++ rest) := by
  obtain ⟨b, more, front⟩ := List.exists_cons_of_ne_nil (natural_ne_nil n)
  have digit : Tree.isDigit b = true := isDigit_of_mem_natural (n := n) (by simp [front])
  rw [front]
  unfold Tree.minus
  split
  · rename_i same
    obtain rfl := (List.cons.inj same).1
    simp [Tree.isDigit] at digit
  · rfl

/-- Reading a numeral takes an integer whole. -/
theorem numeral?_render (value : Int) {rest : Bytes} (ends : Ends rest) :
    Tree.numeral? ((Number.int value).render ++ rest) = some ((Number.int value).render, rest) := by
  simp only [render]
  split
  · simp [Tree.numeral?, Tree.minus, whole?_natural ends, fraction?_of_ends ends,
      exponent?_of_ends ends]
  · simp [Tree.numeral?, minus_natural, whole?_natural ends, fraction?_of_ends ends,
      exponent?_of_ends ends]

/-- Integers that fit 64 bits: unsigned if they are natural numbers, and signed if not. -/
def Fits (value : Int) : Prop :=
  value.natAbs ≤ maxGathered ∧ (value < 0 → value.natAbs ≤ Nat.pow 2 63)

/-- The numeral of an integer that fits means that integer. -/
theorem ofNumeral?_render {value : Int} (fits : Fits value) :
    ofNumeral? (Number.int value).render = some (.int value) := by
  have small := fits.1
  have digits := takeWhile_natural_append value.natAbs ends_nil
  rw [List.append_nil] at digits
  simp only [render]
  split
  · rename_i negative
    have some : value.natAbs ≠ 0 := by omega
    have within := fits.2 negative
    have same : -(value.natAbs : Int) = value := by omega
    generalize value.natAbs = n at small digits within some same ⊢
    simp [ofNumeral?, Tree.minus, digits, gather_natural small, exponentOf, some, within, same]
  · have minus := minus_natural value.natAbs []
    rw [List.append_nil] at minus
    have same : (value.natAbs : Int) = value := by omega
    generalize value.natAbs = n at small digits minus same ⊢
    simp [ofNumeral?, minus, digits, gather_natural small, exponentOf, same]

/-- A numeral of an integer that means any integer means that one. -/
theorem eq_of_ofNumeral?_render {value found : Int}
    (read : ofNumeral? (Number.int value).render = some (.int found)) : found = value := by
  suffices fits : Fits value from
    (Number.int.inj (Option.some.inj ((ofNumeral?_render fits).symm.trans read))).symm
  have digits := takeWhile_natural_append value.natAbs ends_nil
  rw [List.append_nil] at digits
  -- What is not gathered whole would be a double, and so would a number below the signed ones.
  obtain ⟨⟨m, left⟩, gathered⟩ : ∃ all, gather 0 (natural value.natAbs) = all := ⟨_, rfl⟩
  simp only [render] at read
  split at read
  · simp [ofNumeral?, Tree.minus, digits, gathered, exponentOf] at read
    split at read
    · rename_i all
      subst all
      have small := le_of_gather_natural gathered
      obtain rfl : value.natAbs = m := congrArg Prod.fst ((gather_natural small).symm.trans gathered)
      split at read
      · rename_i within
        exact ⟨small, fun _ => within.2⟩
      · simp at read
    · simp at read
  · have minus := minus_natural value.natAbs []
    rw [List.append_nil] at minus
    simp [ofNumeral?, minus, digits, gathered, exponentOf] at read
    split at read
    · rename_i positive all
      subst all
      exact ⟨le_of_gather_natural gathered, fun negative => absurd negative positive⟩
    · simp at read

end Latchkey.Json.Number

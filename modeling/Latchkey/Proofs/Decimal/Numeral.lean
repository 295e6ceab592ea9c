import Latchkey.Decimal.Numeral
import Latchkey.Decimal.Shortest
import Mathlib.Data.List.Basic
import Mathlib.Data.List.Induction

set_option autoImplicit false

/-! # How numbers are written

An integer can be written with a plus, with zeros in front, or as a negative zero. It is written as
it prints if and only if it has none of these (`Numeral.toString_eq_iff`). Whatever is read as a
number is a word or consists of digits, signs, points and the letter for exponents
(`Numeral.spelling_of_double?`). None prints with a plus or an exponent (`Numeral.plain_toString`,
`Binary64.plain_toPlainText`). -/

namespace Latchkey.Numeral

/-! ## Rows of digits -/

/-- A row of digits without a superfluous zero in front. -/
def isPlainNatural (digits : List Char) : Bool :=
  digits = ['0'] || (!digits.isEmpty && digits.all Char.isDigit && digits.head? ≠ some '0')

/-- An integer as it prints: a plain row of digits, behind a minus if it is negative. -/
def isPlainInteger : List Char → Bool
  | '-' :: digits => digits ≠ ['0'] && isPlainNatural digits
  | digits => isPlainNatural digits

theorem ofDigits_concat (digits : List Char) (c : Char) :
    ofDigits (digits ++ [c]) = 10 * ofDigits digits + digitValue c := by
  simp [ofDigits]

theorem bounds_of_isDigit {c : Char} (digit : c.isDigit = true) : 48 ≤ c.toNat ∧ c.toNat ≤ 57 := by
  simp only [Char.isDigit, Bool.and_eq_true, decide_eq_true_eq, ge_iff_le, UInt32.le_iff_toNat_le]
    at digit
  exact digit

theorem digitValue_lt {c : Char} (digit : c.isDigit = true) : digitValue c < 10 := by
  have bounds := bounds_of_isDigit digit
  show c.toNat - 48 < 10
  omega

theorem digitChar_digitValue {c : Char} (digit : c.isDigit = true) :
    (digitValue c).digitChar = c := by
  have bounds := bounds_of_isDigit digit
  refine Char.toNat_inj.1 ?_
  rw [Nat.toNat_digitChar_of_lt_ten (digitValue_lt digit)]
  show 48 + (c.toNat - 48) = c.toNat
  omega

/-- A natural number prints with a zero in front only if it is zero. -/
theorem eq_zero_of_head?_toDigits {n : Nat} (zero : (Nat.toDigits 10 n).head? = some '0') :
    n = 0 := by
  induction n using Nat.strongRecOn with
  | _ n ih =>
    by_cases small : n < 10
    · rw [Nat.toDigits_of_lt_base small] at zero
      exact Nat.digitChar_eq_zero.1 (Option.some.inj zero)
    · rw [Nat.toDigits_of_base_le (by decide) (Nat.not_lt.1 small),
        List.head?_append_of_ne_nil _ Nat.toDigits_ne_nil] at zero
      have none := ih (n / 10) (by omega) zero
      omega

/-- A row of digits without a zero in front is what its number prints as. -/
theorem toDigits_ofDigits {digits : List Char} (some : digits ≠ [])
    (all : digits.all Char.isDigit = true) (front : digits.head? ≠ Option.some '0') :
    Nat.toDigits 10 (ofDigits digits) = digits := by
  induction digits using List.reverseRecOn with
  | nil => exact absurd rfl some
  | append_singleton init c ih =>
    rw [List.all_append, Bool.and_eq_true] at all
    have digit : c.isDigit = true := by simpa using all.2
    rw [ofDigits_concat]
    by_cases single : init = []
    · subst single
      rw [show ofDigits [] = 0 from rfl, Nat.mul_zero, Nat.zero_add,
        Nat.toDigits_of_lt_base (digitValue_lt digit), digitChar_digitValue digit, List.nil_append]
    · rw [List.head?_append_of_ne_nil _ single] at front
      have before := ih single all.1 front
      have positive : 0 < ofDigits init := by
        refine Nat.pos_of_ne_zero ?_
        intro zero
        rw [zero, Nat.toDigits_zero] at before
        rw [← before] at front
        exact front rfl
      rw [← Nat.toDigits_append_toDigits (by decide) positive (digitValue_lt digit), before,
        Nat.toDigits_of_lt_base (digitValue_lt digit), digitChar_digitValue digit]

theorem toDigits_ofDigits_iff {digits : List Char} (some : digits ≠ [])
    (all : digits.all Char.isDigit = true) :
    Nat.toDigits 10 (ofDigits digits) = digits ↔ isPlainNatural digits = true := by
  constructor
  · intro prints
    by_cases front : digits.head? = Option.some '0'
    · rw [← prints] at front
      have zero := eq_zero_of_head?_toDigits front
      rw [zero, Nat.toDigits_zero] at prints
      simp [isPlainNatural, ← prints]
    · simp [isPlainNatural, some, all, front]
  · intro plain
    rcases Bool.or_eq_true_iff.1 plain with zero | front
    · obtain rfl : digits = ['0'] := of_decide_eq_true zero
      decide
    · refine toDigits_ofDigits some all ?_
      exact of_decide_eq_true (Bool.and_eq_true_iff.1 front).2

/-! ## Integers -/

theorem digits?_eq_some {text : List Char} {n : Nat} (read : digits? text = some n) :
    text ≠ [] ∧ text.all Char.isDigit = true ∧ n = ofDigits text := by
  unfold digits? at read
  split at read
  · cases read
  · rename_i digits
    obtain ⟨full, all⟩ : text ≠ [] ∧ text.all Char.isDigit = true := by simpa using digits
    exact ⟨full, all, (Option.some.inj read).symm⟩

theorem integer?_eq_some {text : List Char} {n : Int} (read : integer? text = some n) :
    ∃ magnitude, digits? (takeSign text).2 = some magnitude
      ∧ n = if (takeSign text).1 then -(magnitude : Int) else magnitude := by
  unfold integer? at read
  obtain ⟨magnitude, digits, rest⟩ := Option.bind_eq_some_iff.1 read
  obtain ⟨-, -, same⟩ := Option.bind_eq_some_iff.1 rest
  exact ⟨magnitude, digits, (Option.some.inj same).symm⟩

theorem toList_toString_natCast (n : Nat) : (toString (n : Int)).toList = Nat.toDigits 10 n := by
  simp [Int.repr_eq_if]

theorem toList_toString_neg {n : Nat} (positive : 0 < n) :
    (toString (-(n : Int))).toList = '-' :: Nat.toDigits 10 n := by
  simp [Int.repr_eq_if, Nat.ne_of_gt positive]

theorem isDigit_of_toDigits_eq {n : Nat} {c : Char} {rest : List Char}
    (front : Nat.toDigits 10 n = c :: rest) : c.isDigit = true := by
  have mem : c ∈ Nat.toDigits 10 n := by
    rw [front]
    exact List.mem_cons_self
  exact Nat.isDigit_of_mem_toDigits (by decide) (by decide) mem

/-- An integer prints as the text that it was read from if and only if that is plain. -/
theorem toString_eq_iff {text : String} {n : Int} (read : integer? text.toList = some n) :
    toString n = text ↔ isPlainInteger text.toList = true := by
  obtain ⟨magnitude, digits, rfl⟩ := integer?_eq_some read
  rw [← String.toList_inj]
  clear read
  generalize text.toList = chars at digits ⊢
  cases chars with
  | nil => cases digits
  | cons c rest =>
    by_cases minus : c = '-'
    · subst minus
      have digits : digits? rest = some magnitude := digits
      obtain ⟨full, all, rfl⟩ := digits?_eq_some digits
      show (toString (-(ofDigits rest : Int))).toList = '-' :: rest
        ↔ (decide (rest ≠ ['0']) && isPlainNatural rest) = true
      rw [Bool.and_eq_true, decide_eq_true_eq, ← toDigits_ofDigits_iff full all]
      by_cases zero : ofDigits rest = 0
      · have zeroText : (toString (-((0 : Nat) : Int))).toList = ['0'] := by decide
        rw [zero, Nat.toDigits_zero, zeroText]
        refine iff_of_false (fun front => ?_) fun ⟨apart, same⟩ => apart same.symm
        exact absurd (List.cons.inj front).1 (by decide)
      · have apart : rest ≠ ['0'] := by
          rintro rfl
          exact zero rfl
        rw [toList_toString_neg (Nat.pos_of_ne_zero zero)]
        simp [apart]
    · by_cases plus : c = '+'
      · subst plus
        show (toString (magnitude : Int)).toList = '+' :: rest ↔ isPlainNatural ('+' :: rest) = true
        rw [toList_toString_natCast]
        refine iff_of_false (fun front => ?_) (by simp [isPlainNatural])
        exact Bool.noConfusion (isDigit_of_toDigits_eq front)
      · have sign : takeSign (c :: rest) = (false, c :: rest) := by
          unfold takeSign
          split <;> simp_all
        have plain : isPlainInteger (c :: rest) = isPlainNatural (c :: rest) := by
          unfold isPlainInteger
          split <;> simp_all
        rw [sign] at digits ⊢
        obtain ⟨full, all, rfl⟩ := digits?_eq_some digits
        rw [plain, ← toDigits_ofDigits_iff full all, ← toList_toString_natCast]
        rfl

/-! ## What numbers are written with -/

/-- A character of numbers that are written with digits. -/
def isNumberChar (c : Char) : Bool :=
  c.isDigit || ['+', '-', '.', 'e', 'E'].contains c

/-- A word for a value that is not finite, in any case and behind a sign or none. -/
def isWord (text : List Char) : Bool :=
  ["inf", "infinity", "nan"].contains (String.ofList ((takeSign text).2.map Char.toLower))

theorem all_isNumberChar_of_digits {digits : List Char} (all : digits.all Char.isDigit = true) :
    digits.all isNumberChar = true := by
  rw [List.all_eq_true] at all ⊢
  intro c mem
  simp [isNumberChar, all c mem]

theorem all_isNumberChar_takeSign {text : List Char}
    (rest : (takeSign text).2.all isNumberChar = true) : text.all isNumberChar = true := by
  unfold takeSign at rest
  split at rest
  · simpa [isNumberChar] using rest
  · simpa [isNumberChar] using rest
  · exact rest

theorem spelling_of_integer? {text : List Char} {n : Int} (read : integer? text = some n) :
    text.all isNumberChar = true := by
  obtain ⟨magnitude, digits, -⟩ := integer?_eq_some read
  exact all_isNumberChar_takeSign (all_isNumberChar_of_digits (digits?_eq_some digits).2.1)

theorem spelling_of_exponent? {text : List Char} {e : Int} (read : exponent? text = some e) :
    text.all isNumberChar = true := by
  cases text with
  | nil => rfl
  | cons c rest =>
    rw [exponent?] at read
    split at read
    · rename_i letter
      obtain ⟨_, read, -⟩ := Option.map_eq_some_iff.1 read
      obtain ⟨magnitude, read, -⟩ := Option.bind_eq_some_iff.1 read
      have digits : digits? (takeSign rest).2 = some magnitude := read
      have rest := all_isNumberChar_takeSign
        (all_isNumberChar_of_digits (digits?_eq_some digits).2.1)
      rw [List.all_cons, rest, Bool.and_true]
      rcases Bool.or_eq_true_iff.1 letter with letter | letter <;>
        simp [isNumberChar, of_decide_eq_true letter]
    · cases read

/-- Digits in front of a text are characters of numbers. -/
theorem all_isNumberChar_takeDigits {text : List Char}
    (rest : (takeDigits text).2.all isNumberChar = true) : text.all isNumberChar = true := by
  have front : (takeDigits text).1.all isNumberChar = true :=
    all_isNumberChar_of_digits List.all_takeWhile
  have both : text = (takeDigits text).1 ++ (takeDigits text).2 :=
    List.takeWhile_append_dropWhile.symm
  rw [both, List.all_append, front, rest, Bool.and_true]

theorem isWord_of_word? {text : List Char} {x : Binary64}
    (read : word? (takeSign text).1 (takeSign text).2 = some x) : isWord text = true := by
  unfold word? at read
  dsimp only at read
  split at read
  · rename_i infinite
    simp only [Bool.or_eq_true, decide_eq_true_eq] at infinite
    rcases infinite with word | word <;> simp [isWord, word]
  · split at read
    · rename_i word
      simp [isWord, word]
    · cases read

/-- A double is written with a word or with characters of numbers. -/
theorem spelling_of_double? {text : List Char} {x : Binary64} (read : double? text = some x) :
    isWord text = true ∨ text.all isNumberChar = true := by
  unfold double? at read
  dsimp only at read
  split at read
  · rename_i word
    exact .inl (isWord_of_word? word)
  · refine .inr (all_isNumberChar_takeSign (all_isNumberChar_takeDigits ?_))
    generalize takeDigits (takeSign text).2 = split at read ⊢
    obtain ⟨whole, rest⟩ := split
    dsimp only at read ⊢
    split at read
    · rename_i rest
      split at read
      · cases read
      · obtain ⟨e, exponent, -⟩ := Option.map_eq_some_iff.1 read
        rw [List.all_cons, all_isNumberChar_takeDigits (spelling_of_exponent? exponent)]
        rfl
    · dsimp only at read
      split at read
      · cases read
      · obtain ⟨e, exponent, -⟩ := Option.map_eq_some_iff.1 read
        exact spelling_of_exponent? exponent

/-! ## What numbers print with -/

/-- Neither a plus nor the letter of an exponent. -/
def isPlainChar (c : Char) : Bool :=
  c ≠ '+' && c ≠ 'e' && c ≠ 'E'

theorem isPlainChar_of_isDigit {c : Char} (digit : c.isDigit = true) : isPlainChar c = true := by
  have apart {other : Char} (sign : other.isDigit = false) : c ≠ other := by
    rintro rfl
    exact Bool.noConfusion (digit.symm.trans sign)
  simp [isPlainChar, @apart '+' rfl, @apart 'e' rfl, @apart 'E' rfl]

theorem all_isPlainChar_toDigits (n : Nat) : (Nat.toDigits 10 n).all isPlainChar = true :=
  List.all_eq_true.2 fun _ mem =>
    isPlainChar_of_isDigit (Nat.isDigit_of_mem_toDigits (by decide) (by decide) mem)

/-- An integer prints without a plus and without an exponent. -/
theorem plain_toString (n : Int) : (toString n).toList.all isPlainChar = true := by
  rcases Int.eq_nat_or_neg n with ⟨magnitude, rfl | rfl⟩
  · rw [toList_toString_natCast]
    exact all_isPlainChar_toDigits magnitude
  · rcases Nat.eq_zero_or_pos magnitude with rfl | positive
    · decide
    · rw [toList_toString_neg positive, List.all_cons, all_isPlainChar_toDigits]
      decide

end Latchkey.Numeral

namespace Latchkey.Binary64

open Numeral (isPlainChar all_isPlainChar_toDigits)

theorem all_isPlainChar_positional {digits : List Char} (all : digits.all isPlainChar = true)
    (e : Int) : (positional digits e).all isPlainChar = true := by
  have part {part : List Char} (sublist : part.Sublist digits) : part.all isPlainChar = true :=
    List.all_eq_true.2 fun c mem => List.all_eq_true.1 all c (sublist.subset mem)
  have zeros (n : Nat) : (List.replicate n '0').all isPlainChar = true := by
    simp [isPlainChar]
  unfold positional
  dsimp only
  split
  · rw [List.all_append, all, zeros, Bool.and_true]
  · split
    · simp only [List.all_cons, List.all_append, all, zeros]
      decide
    · simp only [List.all_cons, List.all_append, part (List.take_sublist _ _),
        part (List.drop_sublist _ _)]
      decide

/-- A double prints without a plus and without an exponent. -/
theorem plain_toPlainText (x : Binary64) : x.toPlainText.toList.all isPlainChar = true := by
  cases x with
  | infinite negative => cases negative <;> decide
  | undefined => decide
  | finite negative m e =>
    have sign : (if negative then "-" else "").toList.all isPlainChar = true := by
      cases negative <;> decide
    unfold toPlainText
    dsimp only
    split
    · rw [String.toList_append, List.all_append, sign]
      decide
    · rw [String.toList_append, List.all_append, sign, Bool.true_and, String.toList_ofList]
      refine all_isPlainChar_positional ?_ _
      have printed (n : Nat) : (toString n).toList = Nat.toDigits 10 n := by simp
      rw [printed]
      exact all_isPlainChar_toDigits _

end Latchkey.Binary64

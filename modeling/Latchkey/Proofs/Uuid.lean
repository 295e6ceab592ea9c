import Latchkey.Uuid
import Mathlib.Algebra.Order.Ring.Nat

set_option autoImplicit false

/-! # Identifiers read back

The text of an identifier is read as that identifier (`Uuid.parse_toText`). -/

namespace Latchkey.Uuid

variable {widths : List Nat} {digits : List Char} {c : Char}

/-! ## Digits -/

theorem hexValue?_hexDigit {n : Nat} (small : n < 16) : hexValue? (hexDigit n) = some n := by
  revert n
  decide

@[simp] theorem length_hexDigits (width n : Nat) : (hexDigits width n).length = width := by
  induction width generalizing n with
  | zero => rfl
  | succ width ih => simp [hexDigits, ih]

theorem exists_of_mem_hexDigits {width n : Nat} (mem : c ∈ hexDigits width n) :
    ∃ d, d < 16 ∧ c = hexDigit d := by
  induction width generalizing n with
  | zero => simp [hexDigits] at mem
  | succ width ih =>
    rcases List.mem_append.1 mem with mem | mem
    · exact ih mem
    · exact ⟨n % 16, Nat.mod_lt n (by decide), List.mem_singleton.1 mem⟩

theorem hexNumber?_append (high : Nat) (digits : List Char) (c : Char) :
    hexNumber? high (digits ++ [c])
      = (hexNumber? high digits).bind fun n => (hexValue? c).map fun d => 16 * n + d := by
  induction digits generalizing high with
  | nil =>
    simp only [List.nil_append, hexNumber?, Option.bind_some]
    cases hexValue? c <;> rfl
  | cons d rest ih =>
    simp only [List.cons_append, hexNumber?]
    cases hexValue? d with
    | none => rfl
    | some n => exact ih _

theorem hexNumber?_hexDigits (width n : Nat) :
    hexNumber? 0 (hexDigits width n) = some (n % Nat.pow 16 width) := by
  induction width generalizing n with
  | zero => simp [hexDigits, hexNumber?, Nat.mod_one]
  | succ width ih =>
    have split : n % Nat.pow 16 (width + 1) = n % 16 + 16 * (n / 16 % Nat.pow 16 width) := by
      rw [Nat.pow_eq, Nat.pow_succ, Nat.mul_comm, Nat.mod_mul, Nat.pow_eq]
    rw [hexDigits, hexNumber?_append, ih, hexValue?_hexDigit (Nat.mod_lt n (by decide)), split]
    simp [Nat.add_comm]

/-! ## Groups -/

/-- Groups are taken apart as they were put together. -/
theorem splitGroups?_joinGroups (nonempty : widths ≠ []) (length : digits.length = widths.sum) :
    splitGroups? widths (joinGroups widths digits) = some digits := by
  induction widths generalizing digits with
  | nil => exact absurd rfl nonempty
  | cons width rest ih =>
    cases rest with
    | nil => exact if_pos (by simpa [joinGroups] using length)
    | cons next rest =>
      have group : (digits.take width).length = width := by
        rw [List.sum_cons] at length
        rw [List.length_take]
        omega
      have others : (digits.drop width).length = (next :: rest).sum := by
        rw [List.sum_cons] at length
        rw [List.length_drop]
        omega
      simp only [joinGroups, splitGroups?, List.drop_left' group, List.take_left' group,
        ih (List.cons_ne_nil _ _) others, Option.map_some, List.take_append_drop]

theorem length_joinGroups (nonempty : widths ≠ []) (length : digits.length = widths.sum) :
    (joinGroups widths digits).length + 1 = widths.sum + widths.length := by
  induction widths generalizing digits with
  | nil => exact absurd rfl nonempty
  | cons width rest ih =>
    cases rest with
    | nil => simpa [joinGroups] using length
    | cons next rest =>
      have dropped : (digits.drop width).length = (next :: rest).sum := by
        rw [List.sum_cons] at length
        rw [List.length_drop]
        omega
      have more := ih (List.cons_ne_nil _ _) dropped
      rw [List.sum_cons] at length
      simp only [joinGroups, List.length_append, List.length_take, List.length_cons,
        List.sum_cons] at more ⊢
      rw [List.sum_cons] at length
      omega

/-- The text begins with a digit, so it is neither in braces nor behind a scheme. -/
theorem bare_toChars (u : Uuid) :
    insideBraces? u.toChars = none ∧ afterScheme? u.toChars = none := by
  have digits := length_hexDigits 32 u.toNat
  cases written : hexDigits 32 u.toNat with
  | nil => simp [written] at digits
  | cons c rest =>
    have first : c ∈ hexDigits 32 u.toNat := by simp [written]
    have plain : c ≠ '\x7b' ∧ c.toLower ≠ 'u' := by
      obtain ⟨d, small, rfl⟩ := exists_of_mem_hexDigits first
      clear written first
      revert d
      decide
    have chars : u.toChars
        = c :: (rest.take 7 ++ '-' :: joinGroups [4, 4, 4, 12] (rest.drop 7)) := by
      rw [toChars, written]
      rfl
    rw [chars]
    constructor
    · unfold insideBraces?
      split
      · rename_i same
        exact absurd (List.cons.inj same).1 plain.1
      · rfl
    · unfold afterScheme?
      refine if_neg fun same => plain.2 ?_
      exact (List.cons.inj same).1

/-- Reading gives back what was written. -/
theorem parse_toText (u : Uuid) : parse u.toText = .ok u := by
  have length : u.toChars.length + 1 = 37 :=
    length_joinGroups (by decide) (length_hexDigits 32 u.toNat)
  obtain ⟨braces, scheme⟩ := u.bare_toChars
  have digits : digits? u.toChars = some (hexDigits 32 u.toNat) := by
    rw [digits?, if_neg (by omega), braces, scheme]
    exact splitGroups?_joinGroups (by decide) (length_hexDigits 32 u.toNat)
  rw [parse, toText, String.toList_ofList, ofChars?, digits]
  simp only [Option.bind_some, hexNumber?_hexDigits, Option.map_some]
  rw [Nat.mod_eq_of_lt, ofNat_toNat]
  exact u.toNat_lt

/-- No two identifiers are written alike. -/
theorem toText_injective {u v : Uuid} (same : u.toText = v.toText) : u = v := by
  have read := parse_toText u
  rw [same, parse_toText v] at read
  exact (Except.ok.inj read).symm

end Latchkey.Uuid

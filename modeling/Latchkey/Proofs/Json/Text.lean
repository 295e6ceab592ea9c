import Latchkey.Json.Text
import Latchkey.Proofs.Bytes.Text

set_option autoImplicit false

/-! # JSON strings read back

The token of a text ends at its closing quote and means that text (`Json.token?_tokenOf`,
`Json.textOf?_tokenOf`). -/

namespace Latchkey.Json

/-! ## Bytes between quotes -/

theorem unit?_control {n : Nat} (control : n < 32) :
    unit? 0x30 0x30 (hexDigit (n / 16)) (hexDigit (n % 16)) = some n := by
  revert n
  decide

theorem codePoint_control {n : Nat} (control : n < 32) : codePoint n = [UInt8.ofNat n] := by
  revert n
  decide

/-- How a byte can be written: as an escape of one letter, as an escape of a number, or as it is. -/
theorem escapeByte_cases (b : UInt8) :
    (∃ letter, escapeByte b = [0x5c, letter] ∧ letter ≠ 0x75 ∧ Tree.shortEscape? letter = some b)
      ∨ (∃ r s, escapeByte b = [0x5c, 0x75, 0x30, 0x30, r, s]
        ∧ unit? 0x30 0x30 r s = some b.toNat ∧ codePoint b.toNat = [b] ∧ b.toNat < 0x20)
      ∨ (escapeByte b = [b] ∧ b ≠ 0x22 ∧ b ≠ 0x5c ∧ ¬ b < 0x20) := by
  unfold escapeByte
  by_cases quote : b = 0x22
  · rw [if_pos quote]
    exact .inl ⟨0x22, rfl, by decide, by rw [quote]; rfl⟩
  rw [if_neg quote]
  by_cases slash : b = 0x5c
  · rw [if_pos slash]
    exact .inl ⟨0x5c, rfl, by decide, by rw [slash]; rfl⟩
  rw [if_neg slash]
  by_cases backspace : b = 0x08
  · rw [if_pos backspace]
    exact .inl ⟨0x62, rfl, by decide, by rw [backspace]; rfl⟩
  rw [if_neg backspace]
  by_cases feed : b = 0x0c
  · rw [if_pos feed]
    exact .inl ⟨0x66, rfl, by decide, by rw [feed]; rfl⟩
  rw [if_neg feed]
  by_cases line : b = 0x0a
  · rw [if_pos line]
    exact .inl ⟨0x6e, rfl, by decide, by rw [line]; rfl⟩
  rw [if_neg line]
  by_cases return_ : b = 0x0d
  · rw [if_pos return_]
    exact .inl ⟨0x72, rfl, by decide, by rw [return_]; rfl⟩
  rw [if_neg return_]
  by_cases tab : b = 0x09
  · rw [if_pos tab]
    exact .inl ⟨0x74, rfl, by decide, by rw [tab]; rfl⟩
  rw [if_neg tab]
  by_cases control : b < 0x20
  · rw [if_pos control]
    refine .inr (.inl ⟨_, _, rfl, unit?_control control, ?_, control⟩)
    have point : codePoint b.toNat = [UInt8.ofNat b.toNat] := codePoint_control control
    rw [point, UInt8.ofNat_toNat]
  · rw [if_neg control]
    exact .inr (.inr ⟨rfl, quote, slash, control⟩)

theorem all_of_unit? {p q r s : UInt8} {n : Nat} (value : unit? p q r s = some n) :
    ([p, q, r, s].all fun b => (Tree.hexValue? b).isSome) = true := by
  unfold unit? at value
  cases hp : Tree.hexValue? p <;> cases hq : Tree.hexValue? q <;> cases hr : Tree.hexValue? r <;>
    cases hs : Tree.hexValue? s <;> simp_all

/-- Reading a token takes a written byte whole. -/
theorem token?_escapeByte (b : UInt8) (text : Bytes) :
    Tree.token? (escapeByte b ++ text)
      = (Tree.token? text).map fun (token, rest) => (escapeByte b ++ token, rest) := by
  rcases escapeByte_cases b with
    ⟨letter, same, short, known⟩ | ⟨r, s, same, value, -⟩ | ⟨same, quote, slash, plain⟩
  · rw [same]
    simp only [List.cons_append, List.nil_append]
    rw [Tree.token?.eq_4 _ _ fun _ _ _ _ _ is => absurd is short, known]
    rfl
  · rw [same]
    simp only [List.cons_append, List.nil_append]
    rw [Tree.token?.eq_3, if_pos (all_of_unit? value)]
  · rw [same]
    simp only [List.cons_append, List.nil_append]
    rw [Tree.token?.eq_5 _ _ (fun is => quote is) (fun _ _ _ _ _ is => absurd is slash)
      fun _ _ is => absurd is slash]
    simp [plain, slash]

theorem token?_flatMap (bytes rest : Bytes) :
    Tree.token? (bytes.flatMap escapeByte ++ 0x22 :: rest)
      = some (bytes.flatMap escapeByte, rest) := by
  induction bytes with
  | nil => rfl
  | cons b bytes ih =>
    rw [List.flatMap_cons, List.append_assoc, token?_escapeByte, ih]
    rfl

theorem unescape_unit {p q r s : UInt8} {n : Nat} (value : unit? p q r s = some n)
    (low : isLowSurrogate n = false) (high : isHighSurrogate n = false) (token : Bytes) :
    unescape (0x5c :: 0x75 :: p :: q :: r :: s :: token)
      = (unescape token).map fun more => codePoint n ++ more := by
  -- Another such escape may follow, but it could only matter to the first half of a pair.
  by_cases follows : ∃ t u v w rest, token = 0x5c :: 0x75 :: t :: u :: v :: w :: rest
  · obtain ⟨t, u, v, w, rest, rfl⟩ := follows
    rw [unescape.eq_2, value]
    simp only [bind, Option.bind_some, high, low, Bool.false_eq_true, if_false]
    cases unescape (0x5c :: 0x75 :: t :: u :: v :: w :: rest) <;> rfl
  · rw [unescape.eq_3 _ _ _ _ _ fun t u v w rest is => follows ⟨t, u, v, w, rest, is⟩, value]
    simp only [bind, Option.bind_some, high, low, Bool.or_false, Bool.false_eq_true, if_false]
    cases unescape token <;> rfl

/-- Undoing the escapes gives a written byte back. -/
theorem unescape_escapeByte (b : UInt8) (token : Bytes) :
    unescape (escapeByte b ++ token) = (unescape token).map fun more => b :: more := by
  rcases escapeByte_cases b with
    ⟨letter, same, short, known⟩ | ⟨r, s, same, value, point, small⟩ | ⟨same, quote, slash, plain⟩
  · rw [same]
    simp only [List.cons_append, List.nil_append]
    rw [unescape.eq_4 _ _ (fun _ _ _ _ _ _ _ _ _ is => absurd is short)
      fun _ _ _ _ _ is => absurd is short, known]
    cases unescape token <;> rfl
  · rw [same]
    simp only [List.cons_append, List.nil_append]
    have below : isLowSurrogate b.toNat = false ∧ isHighSurrogate b.toNat = false := by
      simp only [isLowSurrogate, isHighSurrogate, Bool.and_eq_false_iff, decide_eq_false_iff_not]
      omega
    rw [unescape_unit value below.1 below.2, point]
    rfl
  · rw [same]
    simp only [List.cons_append, List.nil_append]
    rw [unescape.eq_5 _ _ (fun _ _ _ _ _ _ _ _ _ is => absurd is slash)
      (fun _ _ _ _ _ is => absurd is slash) fun _ _ is => absurd is slash]
    cases unescape token <;> rfl

theorem unescape_flatMap (bytes : Bytes) : unescape (bytes.flatMap escapeByte) = some bytes := by
  induction bytes with
  | nil => rfl
  | cons b bytes ih =>
    rw [List.flatMap_cons, unescape_escapeByte, ih]
    rfl

/-! ## Texts -/

/-- A token ends at the closing quote. -/
theorem token?_tokenOf (text : String) (rest : Bytes) :
    Tree.token? (tokenOf text ++ 0x22 :: rest) = some (tokenOf text, rest) :=
  token?_flatMap _ rest

/-- A token means the text that it was written for. -/
@[simp] theorem textOf?_tokenOf (text : String) : textOf? (tokenOf text) = some text := by
  rw [textOf?, tokenOf, unescape_flatMap, Option.bind_some, Bytes.toText?_ofText]

end Latchkey.Json

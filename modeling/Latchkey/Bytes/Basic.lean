set_option autoImplicit false

/-! # Byte strings

Everything that is hashed, signed or sent is a list of bytes. This file gives the list its name,
the two number readings (big end first, little end first) and the passage between text and bytes. -/

namespace Latchkey

/-- A string of bytes. -/
abbrev Bytes := List UInt8

namespace Bytes

/-! ## Numbers -/

/-- The number that the bytes write, most significant byte first. -/
def toNatBE (bytes : Bytes) : Nat :=
  bytes.foldl (fun n b => 256 * n + b.toNat) 0

/-- The number that the bytes write, least significant byte first. -/
def toNatLE : Bytes → Nat
  | [] => 0
  | b :: rest => b.toNat + 256 * toNatLE rest

/-- `n` in exactly `width` bytes, least significant first; higher digits are dropped. -/
def ofNatLE : Nat → Nat → Bytes
  | 0, _ => []
  | width + 1, n => UInt8.ofNat n :: ofNatLE width (n / 256)

/-- `n` in exactly `width` bytes, most significant first. -/
def ofNatBE (width n : Nat) : Bytes :=
  (ofNatLE width n).reverse

/-- How many bytes `n` needs; zero needs none. -/
def widthOf (n : Nat) : Nat :=
  if n = 0 then 0 else n.log2 / 8 + 1

/-- `n` in as few bytes as it needs, most significant first. -/
def ofNatMinimal (n : Nat) : Bytes :=
  ofNatBE (widthOf n) n

@[simp] theorem length_ofNatLE (width n : Nat) : (ofNatLE width n).length = width := by
  induction width generalizing n with
  | zero => rfl
  | succ width ih => simp [ofNatLE, ih]

@[simp] theorem length_ofNatBE (width n : Nat) : (ofNatBE width n).length = width := by
  simp [ofNatBE]

theorem toNatLE_ofNatLE (width n : Nat) : toNatLE (ofNatLE width n) = n % Nat.pow 256 width := by
  induction width generalizing n with
  | zero => simp [ofNatLE, toNatLE, Nat.mod_one]
  | succ width ih =>
    have split : n % Nat.pow 256 (width + 1) = n % 256 + 256 * (n / 256 % Nat.pow 256 width) := by
      rw [Nat.pow_eq, Nat.pow_succ, Nat.mul_comm, Nat.mod_mul, Nat.pow_eq]
    rw [split, ← ih]
    simp [ofNatLE, toNatLE]

/-! ## Text -/

/-- The UTF-8 bytes of a text. -/
def ofText (text : String) : Bytes :=
  text.toUTF8.data.toList

/-- The text that the bytes write in UTF-8, if they do. -/
def toText? (bytes : Bytes) : Option String :=
  String.fromUTF8? ⟨bytes.toArray⟩

end Bytes

end Latchkey

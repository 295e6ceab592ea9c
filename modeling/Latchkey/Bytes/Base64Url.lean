import Latchkey.Bytes.Basic

set_option autoImplicit false

/-! # Base64 in the URL alphabet, without padding

Three bytes are written as four symbols of `A–Z a–z 0–9 - _`; one or two left over bytes as two or
three symbols whose unused low bits are zero. Reading is strict: it accepts exactly what writing
produces, and says where the text departs from that. -/

namespace Latchkey.Base64Url

/-! ## Symbols -/

/-- The symbol of a six-bit number. -/
def symbol (n : Nat) : Char :=
  if n < 26 then Char.ofNat (n + 65)
  else if n < 52 then Char.ofNat (n + 71)
  else if n < 62 then Char.ofNat (n - 4)
  else if n = 62 then '-'
  else '_'

/-- The six-bit number of a symbol's byte. -/
def sextet? (byte : UInt8) : Option Nat :=
  let n := byte.toNat
  if 65 ≤ n && n ≤ 90 then some (n - 65)
  else if 97 ≤ n && n ≤ 122 then some (n - 71)
  else if 48 ≤ n && n ≤ 57 then some (n + 4)
  else if n = 45 then some 62
  else if n = 95 then some 63
  else none

/-- The padding byte of other base64 forms, `=`. -/
def pad : UInt8 := 61

/-! ## Writing -/

/-- The symbols of a byte string. -/
def symbols : Bytes → List Char
  | a :: b :: c :: rest =>
    let n := 65536 * a.toNat + 256 * b.toNat + c.toNat
    symbol (n / 262144) :: symbol (n / 4096 % 64) :: symbol (n / 64 % 64) :: symbol (n % 64)
      :: symbols rest
  | [a, b] =>
    let n := 1024 * a.toNat + 4 * b.toNat
    [symbol (n / 4096), symbol (n / 64 % 64), symbol (n % 64)]
  | [a] =>
    let n := 16 * a.toNat
    [symbol (n / 64), symbol (n % 64)]
  | [] => []

/-- The text of a byte string. -/
def encode (bytes : Bytes) : String :=
  String.ofList (symbols bytes)

/-! ## Reading -/

/-- Why a text is not the base64 of any byte string. -/
inductive DecodeError
  /-- A byte that is no symbol, or padding where none can stand. -/
  | badSymbol (offset : Nat) (byte : UInt8)
  /-- The text stops after a single symbol of a group. -/
  | badLength (length : Nat)
  /-- The text is padded. -/
  | padded
  /-- The last symbol has low bits that no byte uses. -/
  | badLastSymbol (offset : Nat) (byte : UInt8)
deriving Repr, DecidableEq

/-- The wording of a reading failure. -/
def DecodeError.message : DecodeError → String
  | .badSymbol offset byte => s!"Invalid symbol {byte.toNat}, offset {offset}."
  | .badLength length => s!"Invalid input length: {length}"
  | .padded => "Invalid padding"
  | .badLastSymbol offset byte => s!"Invalid last symbol {byte.toNat}, offset {offset}."

/-- The number of the symbol at `offset`, or the complaint about it. -/
def sextetAt (offset : Nat) (byte : UInt8) : Except DecodeError Nat :=
  match sextet? byte with
  | some n => .ok n
  | none => .error (.badSymbol offset byte)

/-- What the last, possibly short, group holds: the numbers of its symbols and whether padding
    follows them. Padding may only follow two symbols, and nothing may follow padding. -/
def readLastGroup (start : Nat) :
    Bytes → (index : Nat) → (firstPad : Option Nat) → Except DecodeError (List Nat × Bool)
  | [], _, firstPad => .ok ([], firstPad.isSome)
  | b :: rest, index, firstPad =>
    if b = pad then
      if index < 2 then .error (.badSymbol (start + index) b)
      else readLastGroup start rest (index + 1) (firstPad <|> some (start + index))
    else
      match firstPad with
      | some offset => .error (.badSymbol offset pad)
      | none => do
        let n ← sextetAt (start + index) b
        let (more, padded) ← readLastGroup start rest (index + 1) none
        return (n :: more, padded)

/-- The bytes of the last group, which starts at `start` and has at most four bytes of text. -/
def decodeLastGroup (start : Nat) (text : Bytes) : Except DecodeError Bytes := do
  let (numbers, padded) ← readLastGroup start text 0 none
  if padded then
    if numbers.length < 2 then .error (.badLength (start + numbers.length)) else .error .padded
  else
    match numbers with
    | [] => .ok []
    | [_] => .error (.badLength (start + 1))
    | [p, q] =>
      if q % 16 = 0 then .ok [UInt8.ofNat (4 * p + q / 16)]
      else .error (.badLastSymbol (start + 1) (text.getD 1 0))
    | [p, q, r] =>
      if r % 4 = 0 then .ok [UInt8.ofNat (4 * p + q / 16), UInt8.ofNat (16 * q + r / 4)]
      else .error (.badLastSymbol (start + 2) (text.getD 2 0))
    | p :: q :: r :: s :: _ =>
      .ok [UInt8.ofNat (4 * p + q / 16), UInt8.ofNat (16 * q + r / 4), UInt8.ofNat (64 * r + s)]

/-- Reads group by group; the last group, even a full one, is read by `decodeLastGroup`. -/
def decodeGroups (start : Nat) : Bytes → Except DecodeError Bytes
  | a :: b :: c :: d :: e :: rest => do
    let p ← sextetAt start a
    let q ← sextetAt (start + 1) b
    let r ← sextetAt (start + 2) c
    let s ← sextetAt (start + 3) d
    let more ← decodeGroups (start + 4) (e :: rest)
    return UInt8.ofNat (4 * p + q / 16) :: UInt8.ofNat (16 * q + r / 4)
      :: UInt8.ofNat (64 * r + s) :: more
  | text => decodeLastGroup start text

/-- Reads the bytes of a text. A last byte that stands alone in its group and is no symbol is
    reported before anything else. -/
def decode (text : Bytes) : Except DecodeError Bytes :=
  match text.getLast? with
  | none => .ok []
  | some last =>
    if text.length % 4 = 1 && last != pad && (sextet? last).isNone then
      .error (.badSymbol (text.length - 1) last)
    else
      decodeGroups 0 text

/-- Reads the bytes of a text given as a string. -/
def decodeText (text : String) : Except DecodeError Bytes :=
  decode (Bytes.ofText text)

end Latchkey.Base64Url

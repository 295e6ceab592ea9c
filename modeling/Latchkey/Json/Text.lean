import Latchkey.Json.Tree

set_option autoImplicit false

/-! # JSON strings

A string is written between quotes with quotes, backslashes and controls escaped and every other
byte of its UTF-8 form as it stands; a token means the text that its bytes write once the escapes
are resolved. Escapes of the form `\uXXXX` write UTF-16, so a surrogate needs its other half. -/

namespace Latchkey.Json

/-! ## Writing -/

/-- A hexadecimal digit in lower case. -/
def hexDigit (n : Nat) : UInt8 :=
  if n < 10 then UInt8.ofNat (n + 0x30) else UInt8.ofNat (n + 0x57)

/-- How a byte is written between quotes. -/
def escapeByte (b : UInt8) : Bytes :=
  if b = 0x22 then [0x5c, 0x22]
  else if b = 0x5c then [0x5c, 0x5c]
  else if b = 0x08 then [0x5c, 0x62]
  else if b = 0x0c then [0x5c, 0x66]
  else if b = 0x0a then [0x5c, 0x6e]
  else if b = 0x0d then [0x5c, 0x72]
  else if b = 0x09 then [0x5c, 0x74]
  else if b < 0x20 then
    [0x5c, 0x75, 0x30, 0x30, hexDigit (b.toNat / 16), hexDigit (b.toNat % 16)]
  else [b]

/-- The token of a text. -/
def tokenOf (text : String) : Bytes :=
  (Bytes.ofText text).flatMap escapeByte

/-- A text in quotes. -/
def quote (text : String) : Bytes :=
  0x22 :: tokenOf text ++ [0x22]

/-! ## Reading -/

/-- The number of four hexadecimal digits. -/
def unit? (p q r s : UInt8) : Option Nat := do
  let p ← Tree.hexValue? p
  let q ← Tree.hexValue? q
  let r ← Tree.hexValue? r
  let s ← Tree.hexValue? s
  return 4096 * p + 256 * q + 16 * r + s

/-- Whether a UTF-16 unit is the first half of a pair. -/
def isHighSurrogate (n : Nat) : Bool :=
  0xd800 ≤ n && n < 0xdc00

/-- Whether a UTF-16 unit is the second half of a pair. -/
def isLowSurrogate (n : Nat) : Bool :=
  0xdc00 ≤ n && n < 0xe000

/-- The UTF-8 bytes of a code point. -/
def codePoint (n : Nat) : Bytes :=
  Bytes.ofText (Char.ofNat n).toString

/-- The bytes of a token with its escapes resolved. -/
def unescape : Bytes → Option Bytes
  | [] => some []
  | 0x5c :: 0x75 :: p :: q :: r :: s :: 0x5c :: 0x75 :: t :: u :: v :: w :: rest => do
    let high ← unit? p q r s
    if isHighSurrogate high then
      let low ← unit? t u v w
      if isLowSurrogate low then
        let more ← unescape rest
        return codePoint (0x10000 + 1024 * (high - 0xd800) + (low - 0xdc00)) ++ more
      else none
    else if isLowSurrogate high then none
    else
      let more ← unescape (0x5c :: 0x75 :: t :: u :: v :: w :: rest)
      return codePoint high ++ more
  | 0x5c :: 0x75 :: p :: q :: r :: s :: rest => do
    let n ← unit? p q r s
    if isHighSurrogate n || isLowSurrogate n then none
    else
      let more ← unescape rest
      return codePoint n ++ more
  | 0x5c :: b :: rest => do
    let c ← Tree.shortEscape? b
    let more ← unescape rest
    return c :: more
  | b :: rest => do
    let more ← unescape rest
    return b :: more

/-- The text that a token writes. -/
def textOf? (token : Bytes) : Option String :=
  (unescape token).bind Bytes.toText?

end Latchkey.Json

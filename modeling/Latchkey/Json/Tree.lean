import Latchkey.Bytes.Basic

set_option autoImplicit false

/-! # The shape of a JSON text

A tree keeps a JSON text as it is written: numerals and string tokens as bytes, members in order and
with repetitions. What a numeral or a token means is decided where it is used, so parts that nobody
asks for are held to the grammar and nothing more. -/

namespace Latchkey.Json

/-- A JSON text without its white space. -/
inductive Tree
  | null
  | bool (value : Bool)
  | number (numeral : Bytes)
  | string (token : Bytes)
  | array (elements : List Tree)
  | object (members : List (Bytes × Tree))

namespace Tree

/-! ## Tokens -/

/-- White space between tokens. -/
def isSpace (b : UInt8) : Bool :=
  b = 0x20 || b = 0x0a || b = 0x0d || b = 0x09

/-- Drops white space. -/
def skipSpace (text : Bytes) : Bytes :=
  text.dropWhile isSpace

/-- Whether a byte is a decimal digit. -/
def isDigit (b : UInt8) : Bool :=
  0x30 ≤ b && b ≤ 0x39

/-- The value of a hexadecimal digit in either case. -/
def hexValue? (b : UInt8) : Option Nat :=
  if 0x30 ≤ b && b ≤ 0x39 then some (b.toNat - 0x30)
  else if 0x61 ≤ b && b ≤ 0x66 then some (b.toNat - 0x57)
  else if 0x41 ≤ b && b ≤ 0x46 then some (b.toNat - 0x37)
  else none

/-- What a one-letter escape stands for. -/
def shortEscape? (b : UInt8) : Option UInt8 :=
  if b = 0x22 then some 0x22
  else if b = 0x5c then some 0x5c
  else if b = 0x2f then some 0x2f
  else if b = 0x62 then some 0x08
  else if b = 0x66 then some 0x0c
  else if b = 0x6e then some 0x0a
  else if b = 0x72 then some 0x0d
  else if b = 0x74 then some 0x09
  else none

/-- The token in front of the closing quote, still escaped, and what follows the quote. -/
def token? : Bytes → Option (Bytes × Bytes)
  | [] => none
  | 0x22 :: rest => some ([], rest)
  | 0x5c :: 0x75 :: p :: q :: r :: s :: rest =>
    if [p, q, r, s].all fun b => (hexValue? b).isSome then
      (token? rest).map fun (token, rest) => (0x5c :: 0x75 :: p :: q :: r :: s :: token, rest)
    else none
  | 0x5c :: b :: rest =>
    if (shortEscape? b).isSome then
      (token? rest).map fun (token, rest) => (0x5c :: b :: token, rest)
    else none
  | b :: rest =>
    if b < 0x20 || b = 0x5c then none
    else (token? rest).map fun (token, rest) => (b :: token, rest)

/-- One or more digits at the head of the text. -/
def digits? (text : Bytes) : Option (Bytes × Bytes) :=
  let digits := text.takeWhile isDigit
  if digits.isEmpty then none else some (digits, text.drop digits.length)

/-- The whole part of a numeral: a zero alone, or digits that do not begin with one. -/
def whole? (text : Bytes) : Option (Bytes × Bytes) :=
  match digits? text with
  | some (0x30 :: _ :: _, _) => none
  | result => result

/-- An optional fraction with its point. -/
def fraction? : Bytes → Option (Bytes × Bytes)
  | 0x2e :: rest => (digits? rest).map fun (digits, rest) => (0x2e :: digits, rest)
  | text => some ([], text)

/-- An optional sign. -/
def sign : Bytes → Bytes × Bytes
  | 0x2b :: rest => ([0x2b], rest)
  | 0x2d :: rest => ([0x2d], rest)
  | text => ([], text)

/-- An optional exponent with its letter and sign. -/
def exponent? : Bytes → Option (Bytes × Bytes)
  | b :: rest =>
    if b = 0x65 || b = 0x45 then
      let (sign, rest) := sign rest
      (digits? rest).map fun (digits, rest) => (b :: sign ++ digits, rest)
    else some ([], b :: rest)
  | [] => some ([], [])

/-- An optional minus. -/
def minus : Bytes → Bytes × Bytes
  | 0x2d :: rest => ([0x2d], rest)
  | text => ([], text)

/-- The numeral at the head of the text. -/
def numeral? (text : Bytes) : Option (Bytes × Bytes) := do
  let (minus, rest) := minus text
  let (whole, rest) ← whole? rest
  let (fraction, rest) ← fraction? rest
  let (exponent, rest) ← exponent? rest
  return (minus ++ whole ++ fraction ++ exponent, rest)

/-- What follows a fixed word at the head of the text. -/
def word? (word text : Bytes) : Option Bytes :=
  if word.isPrefixOf text then some (text.drop word.length) else none

/-- The word `null`. -/
def nullWord : Bytes := [0x6e, 0x75, 0x6c, 0x6c]
/-- The word `true`. -/
def trueWord : Bytes := [0x74, 0x72, 0x75, 0x65]
/-- The word `false`. -/
def falseWord : Bytes := [0x66, 0x61, 0x6c, 0x73, 0x65]

/-- A value that has no parts, at the head of the text. -/
def atom? (text : Bytes) : Option (Tree × Bytes) :=
  match text with
  | 0x22 :: rest => (token? rest).map fun (token, rest) => (.string token, rest)
  | 0x6e :: _ => (word? nullWord text).map fun rest => (.null, rest)
  | 0x74 :: _ => (word? trueWord text).map fun rest => (.bool true, rest)
  | 0x66 :: _ => (word? falseWord text).map fun rest => (.bool false, rest)
  | _ => (numeral? text).map fun (numeral, rest) => (.number numeral, rest)

/-! ## Values -/

mutual

/-- The value at the head of the text. Every value has at least one byte, so the length of the text
    is fuel enough. -/
def value? : Nat → Bytes → Option (Tree × Bytes)
  | 0, _ => none
  | fuel + 1, text =>
    match skipSpace text with
    | 0x5b :: rest =>
      match skipSpace rest with
      | 0x5d :: rest => some (.array [], rest)
      | rest => (elements? fuel rest).map fun (elements, rest) => (.array elements, rest)
    | 0x7b :: rest =>
      match skipSpace rest with
      | 0x7d :: rest => some (.object [], rest)
      | rest => (members? fuel rest).map fun (members, rest) => (.object members, rest)
    | rest => atom? rest

/-- One or more values up to the closing bracket. -/
def elements? : Nat → Bytes → Option (List Tree × Bytes)
  | 0, _ => none
  | fuel + 1, text =>
    match value? fuel text with
    | none => none
    | some (first, rest) =>
      match skipSpace rest with
      | 0x5d :: rest => some ([first], rest)
      | 0x2c :: rest => (elements? fuel rest).map fun (more, rest) => (first :: more, rest)
      | _ => none

/-- One or more members up to the closing brace. -/
def members? : Nat → Bytes → Option (List (Bytes × Tree) × Bytes)
  | 0, _ => none
  | fuel + 1, text =>
    match skipSpace text with
    | 0x22 :: rest =>
      match token? rest with
      | none => none
      | some (key, rest) =>
        match skipSpace rest with
        | 0x3a :: rest =>
          match value? fuel rest with
          | none => none
          | some (value, rest) =>
            match skipSpace rest with
            | 0x7d :: rest => some ([(key, value)], rest)
            | 0x2c :: rest =>
              (members? fuel rest).map fun (more, rest) => ((key, value) :: more, rest)
            | _ => none
        | _ => none
    | _ => none

end

/-- The tree of a whole text. -/
def parse? (text : Bytes) : Option Tree :=
  match value? (text.length + 1) text with
  | some (tree, rest) => if (skipSpace rest).isEmpty then some tree else none
  | none => none

end Tree

end Latchkey.Json

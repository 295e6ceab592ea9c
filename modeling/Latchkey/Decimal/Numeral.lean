import Latchkey.Decimal.Binary64

set_option autoImplicit false

/-! # Numbers in plain text

How a text as a whole is read as an integer of 64 bits or as a double. Digits are the ASCII ones, a
sign may stand in front, and nothing else may stand before or after. -/

namespace Latchkey.Numeral

/-! ## Digits -/

/-- The number of a decimal digit. -/
def digitValue (c : Char) : Nat :=
  c.toNat - '0'.toNat

/-- The number that a row of decimal digits writes. -/
def ofDigits (digits : List Char) : Nat :=
  digits.foldl (fun n c => 10 * n + digitValue c) 0

/-- The digits at the head of a text, and what follows them. -/
def takeDigits (text : List Char) : List Char × List Char :=
  (text.takeWhile Char.isDigit, text.dropWhile Char.isDigit)

/-- Whether a minus stands in front, and what follows a sign. -/
def takeSign : List Char → Bool × List Char
  | '-' :: rest => (true, rest)
  | '+' :: rest => (false, rest)
  | text => (false, text)

/-- A text that is nothing but digits, and at least one. -/
def digits? (text : List Char) : Option Nat :=
  if text.isEmpty || !text.all Char.isDigit then none else some (ofDigits text)

/-! ## Integers -/

/-- The least integer of 64 bits with a sign. -/
def leastInteger : Int := -9223372036854775808

/-- The greatest integer of 64 bits with a sign. -/
def greatestInteger : Int := 9223372036854775807

/-- The greatest integer of 64 bits without a sign. -/
def greatestNatural : Nat := 18446744073709551615

/-- Whether an integer is one of 64 bits with a sign. -/
def fitsSigned (n : Int) : Bool :=
  leastInteger ≤ n && n ≤ greatestInteger

/-- A signed integer of 64 bits. -/
def integer? (text : List Char) : Option Int := do
  let (negative, digits) := takeSign text
  let magnitude ← digits? digits
  let n : Int := if negative then -magnitude else magnitude
  guard (fitsSigned n)
  return n

/-- An unsigned integer of 64 bits; a plus may stand in front. -/
def natural? (text : List Char) : Option Nat := do
  let (negative, digits) := takeSign text
  guard (!negative)
  let n ← digits? digits
  guard (n ≤ greatestNatural)
  return n

/-! ## Doubles -/

/-- The double nearest to a row of digits times `10^e`. Exponents that lead far beyond the doubles
    on either side are not carried out. -/
def nearest (negative : Bool) (digits : List Char) (e : Int) : Binary64 :=
  let digits := digits.dropWhile (· = '0')
  let size : Int := digits.length + e
  if digits.isEmpty || size < -330 then .zero negative
  else if 310 < size then .infinite negative
  else .ofDecimal negative (ofDigits digits) e

/-- The exponent that stands behind the digits, nothing being zero. -/
def exponent? : List Char → Option Int
  | [] => some 0
  | c :: rest =>
    if c = 'e' || c = 'E' then
      let (negative, digits) := takeSign rest
      (digits? digits).map fun n => if negative then -n else n
    else none

/-- The words for values that are not finite, in lower case. -/
def word? (negative : Bool) (text : List Char) : Option Binary64 :=
  let word := String.ofList (text.map Char.toLower)
  if word = "inf" || word = "infinity" then some (.infinite negative)
  else if word = "nan" then some .undefined
  else none

/-- A double: digits with or without a point, of which one at least is there, and an exponent, or a
    word for a value that is not finite. The double is the nearest one. -/
def double? (text : List Char) : Option Binary64 :=
  let (negative, text) := takeSign text
  match word? negative text with
  | some x => some x
  | none =>
    let (whole, rest) := takeDigits text
    let (fraction, rest) := match rest with
      | '.' :: rest => takeDigits rest
      | _ => ([], rest)
    if whole.isEmpty && fraction.isEmpty then none
    else (exponent? rest).map fun e => nearest negative (whole ++ fraction) (e - fraction.length)

end Latchkey.Numeral

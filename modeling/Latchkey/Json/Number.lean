import Latchkey.Decimal.Shortest
import Latchkey.Json.Tree

set_option autoImplicit false

/-! # JSON numbers

A numeral without fraction and exponent is an integer if it fits 64 bits, signed below zero and
unsigned above. Every other numeral is a double. Its digits are gathered while they fit 64 bits, and
the double is that whole number times or divided by a power of ten, each step rounded; a value
beyond the doubles is refused. -/

namespace Latchkey.Json

/-- A JSON number. -/
inductive Number
  | int (value : Int)
  | float (value : Binary64)
deriving DecidableEq, Repr

namespace Number

/-! ## Reading -/

/-- The number of a digit. -/
def digitValue (b : UInt8) : Nat :=
  b.toNat - 0x30

/-- The largest whole number that is gathered. -/
def maxGathered : Nat := Nat.pow 2 64 - 1

/-- Gathers digits while they fit; answers the number and the digits left over. -/
def gather : Nat → Bytes → Nat × Bytes
  | n, [] => (n, [])
  | n, b :: rest =>
    let next := 10 * n + digitValue b
    if next ≤ maxGathered then gather next rest else (n, b :: rest)

/-- The largest exponent that is told apart. -/
def maxExponent : Nat := Nat.pow 2 31 - 1

/-- Keeps an exponent within 32 bits. -/
def saturate (e : Int) : Int :=
  max (-(maxExponent : Int) - 1) (min e maxExponent)

/-- The largest power of ten that is applied in one step. -/
def stepExponent : Nat := 308

/-- A power of ten as a double. -/
def powerOfTen (k : Nat) : Binary64 :=
  .ofDecimal false 1 k

/-- Divides by `10^k`, in steps of `10^308`, stopping at zero. -/
def divideBy (x : Binary64) (k : Nat) : Binary64 :=
  if k ≤ stepExponent then x.div (powerOfTen k)
  else if x.isZero then x
  else divideBy (x.div (powerOfTen stepExponent)) (k - stepExponent)
termination_by k
decreasing_by simp only [stepExponent] at *; omega

/-- The double `n · 10^e`, computed in steps, unless it is too large. -/
def scaled? (n : Nat) (e : Int) : Option Binary64 :=
  let x := Binary64.ofNat n
  if e < 0 then some (divideBy x (-e).toNat)
  else if e.toNat ≤ stepExponent then
    match x.mul (powerOfTen e.toNat) with
    | .infinite _ => none
    | product => some product
  else if n = 0 then some x
  else none

/-- The double of a whole number `n`, the digits left over from it, the fraction's digits and the
    exponent's sign and digits. Left over digits of the whole part count as zeros; left over digits
    of the fraction are dropped. -/
def double? (n : Nat) (left fraction : Bytes) (exponent : Option (Bool × Bytes)) :
    Option Binary64 :=
  let (n, dropped) := gather n fraction
  let start : Int := left.length - (fraction.length - dropped.length : Nat)
  match exponent with
  | none => scaled? n start
  | some (negative, digits) =>
    let e := digits.foldl (fun e b => 10 * e + digitValue b) 0
    if maxExponent < e then
      if n ≠ 0 && !negative then none else some (.zero false)
    else scaled? n (saturate (if negative then start - e else start + e))

/-- The digits of an exponent and whether it is negative. -/
def exponentOf : Bytes → Option (Bool × Bytes)
  | [] => none
  | _ :: 0x2d :: digits => some (true, digits)
  | _ :: 0x2b :: digits => some (false, digits)
  | _ :: digits => some (false, digits)

/-- The number that a numeral writes. -/
def ofNumeral? (numeral : Bytes) : Option Number :=
  let (minus, rest) := Tree.minus numeral
  let negative := !minus.isEmpty
  let whole := rest.takeWhile Tree.isDigit
  let rest := rest.drop whole.length
  let fraction := match rest with
    | 0x2e :: digits => digits.takeWhile Tree.isDigit
    | _ => []
  let exponent := exponentOf (rest.dropWhile fun b => b = 0x2e || Tree.isDigit b)
  let (n, left) := gather 0 whole
  if left.isEmpty && fraction.isEmpty && exponent.isNone then
    if !negative then some (.int n)
    else if n ≠ 0 && n ≤ Nat.pow 2 63 then some (.int (-n))
    else some (.float (Binary64.ofNat n).neg)
  else
    (double? n left fraction exponent).map fun x =>
      .float (if negative then x.neg else x)

/-! ## Writing -/

/-- Whole numbers up to this many digits are written positionally. -/
def positionalDigits : Int := 16

/-- Numbers below one keep up to this many zeros after the point. -/
def leadingZeros : Int := 5

/-- A positive decimal: positional near one, with an exponent otherwise. -/
def decimalText (d : Binary64.Decimal) : List Char :=
  let digits := (toString d.digits).toList
  let point : Int := digits.length + d.exponent
  if 0 ≤ d.exponent && point ≤ positionalDigits then
    Binary64.positional digits d.exponent ++ ['.', '0']
  else if -leadingZeros < point && point ≤ positionalDigits then
    Binary64.positional digits d.exponent
  else
    let mantissa := match digits with
      | first :: second :: more => first :: '.' :: second :: more
      | digits => digits
    let e := point - 1
    mantissa ++ 'e' :: (if e < 0 then '-' else '+') :: (toString e.natAbs).toList

/-- The text of a double; one that is not finite is `null`. -/
def doubleText : Binary64 → String
  | .finite negative m e =>
    let sign := if negative then "-" else ""
    if m = 0 then sign ++ "0.0" else sign ++ String.ofList (decimalText (Binary64.shortest m e))
  | _ => "null"

/-- The bytes of a natural number in decimal. -/
def natural (n : Nat) : Bytes :=
  (Nat.toDigits 10 n).map fun c => UInt8.ofNat c.toNat

/-- The bytes of a number. -/
def render : Number → Bytes
  | .int value => if value < 0 then 0x2d :: natural value.natAbs else natural value.natAbs
  | .float value => Bytes.ofText (doubleText value)

end Number

end Latchkey.Json

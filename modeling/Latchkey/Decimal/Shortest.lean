import Latchkey.Decimal.Binary64

set_option autoImplicit false

/-! # The shortest decimal of a double

Of all decimals that read back as a given double, the ones with the fewest digits are taken, and of
those the one nearest to it. Everything is compared in whole numbers: the double, and the bounds of
the interval that reads back as it, are fractions over one denominator. -/

namespace Latchkey.Binary64

/-- The interval that reads back as a double, as numerators over `denominator`. The bounds belong to
    it when the significand is even. -/
structure Interval where
  low : Nat
  value : Nat
  high : Nat
  denominator : Nat
  closed : Bool

/-- The interval of a positive significand and its exponent. Below a power of two the steps are half
    as long. -/
def intervalOf (m : Nat) (e : Int) : Interval :=
  let below := if m = significandBound / 2 ∧ leastExponent < e then 1 else 2
  let (_, d) := ratio 1 (e - 2)
  let scale := (ratio 1 (e - 2)).1
  ⟨(4 * m - below) * scale, 4 * m * scale, (4 * m + 2) * scale, d, m % 2 = 0⟩

/-- Whether `n · 10^e` lies in the interval. -/
def Interval.contains (i : Interval) (n : Nat) (e : Int) : Bool :=
  let x := if 0 ≤ e then n * Nat.pow 10 e.toNat * i.denominator else n * i.denominator
  let unit := if 0 ≤ e then 1 else Nat.pow 10 (-e).toNat
  if i.closed then i.low * unit ≤ x && x ≤ i.high * unit
  else i.low * unit < x && x < i.high * unit

/-- A decimal `digits · 10^exponent`. -/
structure Decimal where
  digits : Nat
  exponent : Int
deriving DecidableEq, Repr

/-- The decimal on the grid of `10^e` that is nearest to the double, of those two around it that lie
    in the interval. -/
def Interval.onGrid? (i : Interval) (e : Int) : Option Decimal :=
  let numerator := if 0 ≤ e then i.value else i.value * Nat.pow 10 (-e).toNat
  let unit := if 0 ≤ e then i.denominator * Nat.pow 10 e.toNat else i.denominator
  let below := numerator / unit
  let twice := 2 * (numerator % unit)
  let nearer := if twice < unit then below
    else if unit < twice then below + 1
    else below + below % 2
  let other := if nearer = below then below + 1 else below
  if i.contains nearer e && nearer ≠ 0 then some ⟨nearer, e⟩
  else if i.contains other e && other ≠ 0 then some ⟨other, e⟩
  else none

/-- The first grid, from the coarsest on, that has a decimal in the interval. -/
def Interval.search (i : Interval) : Nat → Int → Decimal
  | 0, e => ⟨i.value, e⟩
  | steps + 1, e =>
    match i.onGrid? e with
    | some d => d
    | none => i.search steps (e - 1)

/-- The position of the leading digit: `10^k ≤ n / d < 10^(k+1)`, for `k` within one of the guess.
    -/
def leadingPosition (n d : Nat) : Int :=
  let guess : Int := ((n.log2 : Int) - d.log2) * 1233 / 4096
  let reachesTen (k : Int) : Bool :=
    if 0 ≤ k then d * Nat.pow 10 k.toNat ≤ n else d ≤ n * Nat.pow 10 (-k).toNat
  if reachesTen (guess + 1) then guess + 1 else if reachesTen guess then guess else guess - 1

/-- Drops trailing zeros of the digits. -/
def Decimal.normal (fuel : Nat) (d : Decimal) : Decimal :=
  match fuel with
  | 0 => d
  | fuel + 1 =>
    if d.digits ≠ 0 ∧ d.digits % 10 = 0 then Decimal.normal fuel ⟨d.digits / 10, d.exponent + 1⟩
    else d

/-- The shortest decimal of a positive significand and its exponent. -/
def shortest (m : Nat) (e : Int) : Decimal :=
  let i := intervalOf m e
  let top := leadingPosition i.value i.denominator
  (i.search 20 (top + 1)).normal 20

/-! ## Layout -/

/-- A double in positional notation, without a point when it is whole. -/
def positional (digits : List Char) (exponent : Int) : List Char :=
  if 0 ≤ exponent then digits ++ List.replicate exponent.toNat '0'
  else
    let places := (-exponent).toNat
    if digits.length ≤ places then
      '0' :: '.' :: List.replicate (places - digits.length) '0' ++ digits
    else digits.take (digits.length - places) ++ '.' :: digits.drop (digits.length - places)

/-- A double as plain text: positional, with no exponent however large it is. -/
def toPlainText : Binary64 → String
  | .finite negative m e =>
    let sign := if negative then "-" else ""
    if m = 0 then sign ++ "0"
    else
      let d := shortest m e
      sign ++ String.ofList (positional (toString d.digits).toList d.exponent)
  | .infinite negative => if negative then "-inf" else "inf"
  | .undefined => "NaN"

end Latchkey.Binary64

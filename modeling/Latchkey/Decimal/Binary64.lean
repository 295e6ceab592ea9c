import Latchkey.Bytes.Basic

set_option autoImplicit false

/-! # Double-precision numbers

A finite double is `± significand · 2^exponent`, with the significand below `2⁵³` and as large as
the least exponent permits. Every operation computes exactly and rounds once, to the nearest double,
a tie going to the even significand. -/

namespace Latchkey

/-- A double-precision number. -/
inductive Binary64
  | finite (negative : Bool) (significand : Nat) (exponent : Int)
  | infinite (negative : Bool)
  | undefined
deriving DecidableEq, Repr

namespace Binary64

/-- Significands stay below this bound. -/
def significandBound : Nat := Nat.pow 2 53

/-- The exponent of the smallest steps. -/
def leastExponent : Int := -1074

/-- The exponent of the largest steps. -/
def greatestExponent : Int := 971

/-- Zero of either sign. -/
def zero (negative : Bool) : Binary64 :=
  .finite negative 0 leastExponent

/-- `n / d` to the nearest natural number, a tie going to the even one. -/
def roundQuotient (n d : Nat) : Nat :=
  let q := n / d
  let twice := 2 * (n % d)
  if twice < d then q
  else if d < twice then q + 1
  else q + q % 2

/-- `n / d / 2^e` to the nearest natural number. -/
def roundScaled (n d : Nat) (e : Int) : Nat :=
  if 0 ≤ e then roundQuotient n (d * Nat.pow 2 e.toNat)
  else roundQuotient (n * Nat.pow 2 (-e).toNat) d

/-- Whether `n / d` is at least `2^e`. -/
def reaches (n d : Nat) (e : Int) : Bool :=
  if 0 ≤ e then d * Nat.pow 2 e.toNat ≤ n else d ≤ n * Nat.pow 2 (-e).toNat

/-- The double nearest to `n / d`, with the given sign. -/
def ofRatio (negative : Bool) (n d : Nat) : Binary64 :=
  if n = 0 ∨ d = 0 then zero negative
  else
    let guess : Int := (n.log2 : Int) - d.log2
    let top := if reaches n d guess then guess else guess - 1
    let e := max (top - 52) leastExponent
    let m := roundScaled n d e
    let (m, e) := if m = significandBound then (significandBound / 2, e + 1) else (m, e)
    if greatestExponent < e then .infinite negative else .finite negative m e

/-- The double nearest to a natural number. -/
def ofNat (n : Nat) : Binary64 :=
  ofRatio false n 1

/-- The double nearest to `n · 10^e`. -/
def ofDecimal (negative : Bool) (n : Nat) (e : Int) : Binary64 :=
  if 0 ≤ e then ofRatio negative (n * Nat.pow 10 e.toNat) 1
  else ofRatio negative n (Nat.pow 10 (-e).toNat)

/-- The numerator and denominator of a significand and exponent. -/
def ratio (m : Nat) (e : Int) : Nat × Nat :=
  if 0 ≤ e then (m * Nat.pow 2 e.toNat, 1) else (m, Nat.pow 2 (-e).toNat)

/-- The sign turned around. -/
def neg : Binary64 → Binary64
  | .finite negative m e => .finite (!negative) m e
  | .infinite negative => .infinite (!negative)
  | .undefined => .undefined

/-- Whether the number is a zero of either sign. -/
def isZero : Binary64 → Bool
  | .finite _ m _ => m = 0
  | _ => false

/-- The product of finite doubles; other operands pass through. -/
def mul : Binary64 → Binary64 → Binary64
  | .finite s m e, .finite t k f =>
    let (n, d) := ratio (m * k) (e + f)
    ofRatio (s != t) n d
  | .finite _ _ _, y => y
  | x, _ => x

/-- The quotient of finite doubles, of which the second is not zero; other operands pass through. -/
def div : Binary64 → Binary64 → Binary64
  | .finite s m e, .finite t k f =>
    let (n, d) := ratio m (e - f)
    ofRatio (s != t) n (d * k)
  | .finite _ _ _, y => y
  | x, _ => x

/-- The nearest integer, a half going away from zero. -/
def roundAway : Binary64 → Option Int
  | .finite negative m e =>
    let (n, d) := ratio m e
    let r : Int := ((2 * n + d) / (2 * d) : Nat)
    some (if negative then -r else r)
  | _ => none

end Binary64

end Latchkey

import Latchkey.Bytes.Basic

set_option autoImplicit false

/-! # The twisted Edwards curve of Ed25519

Points of `-x² + y² = 1 + d x² y²` over the integers modulo `2²⁵⁵ - 19`, kept in extended
coordinates `(X : Y : Z : T)` with `x = X/Z`, `y = Y/Z` and `XY = ZT`, so that adding needs no
division. A point is written as the 32 bytes of `y`, low end first, with the parity of `x` in the
top bit. -/

namespace Latchkey.Ed25519

/-! ## The field -/

/-- The field's modulus. -/
def fieldPrime : Nat := Nat.pow 2 255 - 19

/-- The order of the base point. -/
def groupOrder : Nat := Nat.pow 2 252 + 27742317777372353535851937790883648493

/-- A power in the field, by repeated squaring. -/
def power (x : Nat) (n : Nat) : Nat :=
  if n = 0 then 1
  else
    let half := power (x * x % fieldPrime) (n / 2)
    if n % 2 = 0 then half else x * half % fieldPrime
termination_by n

/-- Difference in the field of two reduced elements. -/
def minus (x y : Nat) : Nat :=
  (x + fieldPrime - y) % fieldPrime

/-- The inverse of a non-zero element. -/
def inverse (x : Nat) : Nat :=
  power x (fieldPrime - 2)

/-- The curve's constant `d = -121665/121666`. -/
def curveD : Nat :=
  0x52036cee2b6ffe738cc740797779e89800700a4d4141d8ab75eb4dca135978a3

/-- A square root of minus one. -/
def sqrtMinusOne : Nat :=
  0x2b8324804fc1df0b2b4d00993dfbd7a72f431806ad2fe478c4ee1b274a0ea0b0

/-! ## Points -/

/-- A point in extended coordinates. -/
structure Point where
  x : Nat
  y : Nat
  z : Nat
  t : Nat

namespace Point

/-- The neutral point. -/
def zero : Point := ⟨0, 1, 1, 0⟩

/-- The base point. -/
def base : Point :=
  let x := 0x216936d3cd6e53fec0a4e231fdd6dc5c692cc7609525a7b2c9562d608f25d51a
  let y := 0x6666666666666666666666666666666666666666666666666666666666666658
  ⟨x, y, 1, x * y % fieldPrime⟩

/-- The sum of two points; complete, so also right for equal ones. -/
def add (p q : Point) : Point :=
  let a := minus p.y p.x * minus q.y q.x % fieldPrime
  let b := (p.y + p.x) * (q.y + q.x) % fieldPrime
  let c := 2 * curveD * p.t % fieldPrime * q.t % fieldPrime
  let d := 2 * p.z * q.z % fieldPrime
  let e := minus b a
  let f := minus d c
  let g := d + c
  let h := b + a
  ⟨e * f % fieldPrime, g * h % fieldPrime, f * g % fieldPrime, e * h % fieldPrime⟩

/-- The opposite point. -/
def neg (p : Point) : Point :=
  ⟨minus 0 p.x, p.y, p.z, minus 0 p.t⟩

/-- `n` times a point, by doubling and adding. -/
def scale (n : Nat) (p : Point) : Point :=
  if n = 0 then zero
  else
    let half := scale (n / 2) p
    let even := half.add half
    if n % 2 = 0 then even else even.add p
termination_by n

/-- The 32 bytes of a point. -/
def encode (p : Point) : Bytes :=
  let zi := inverse p.z
  let x := p.x * zi % fieldPrime
  let y := p.y * zi % fieldPrime
  Bytes.ofNatLE 32 (y + Nat.pow 2 255 * (x % 2))

/-- The point that 32 bytes write. The ordinate is taken modulo the field's prime, and no point of
    small order is refused. -/
def decode? (bytes : Bytes) : Option Point :=
  if bytes.length = 32 then
    let n := Bytes.toNatLE bytes
    let y := n % Nat.pow 2 255 % fieldPrime
    let odd := n / Nat.pow 2 255
    let yy := y * y % fieldPrime
    let u := minus yy 1
    let v := (curveD * yy + 1) % fieldPrime
    let v3 := v * v % fieldPrime * v % fieldPrime
    let v7 := v3 * v3 % fieldPrime * v % fieldPrime
    let root := u * v3 % fieldPrime * power (u * v7 % fieldPrime) ((fieldPrime - 5) / 8)
      % fieldPrime
    let square := v * root % fieldPrime * root % fieldPrime
    let x? :=
      if square = u then some root
      else if (square + u) % fieldPrime = 0 then some (root * sqrtMinusOne % fieldPrime)
      else none
    x?.map fun x =>
      let x := if x % 2 = odd then x else minus 0 x
      ⟨x, y, 1, x * y % fieldPrime⟩
  else none

end Point

end Latchkey.Ed25519

import Latchkey.Digest.Sha256

set_option autoImplicit false

/-! # Prime numbers

Primes of a given size, found by trying odd numbers from a stream of drawn bytes. A candidate is
divided by small primes first and then put to the Miller–Rabin test with several bases. -/

namespace Latchkey.Rsa

/-! ## Drawn numbers -/

/-- Bytes drawn from a seed: digests of the seed and a counter. -/
def drawnBytes (seed : Bytes) (start : Nat) : Nat → Bytes
  | 0 => []
  | blocks + 1 =>
    Sha256.digest (seed ++ Bytes.ofNatBE 8 start) ++ drawnBytes seed (start + 1) blocks

/-- A number below `2^bits` drawn from a seed. -/
def drawnNumber (seed : Bytes) (start bits : Nat) : Nat :=
  Bytes.toNatBE (drawnBytes seed start (bits / 256 + 1)) % Nat.pow 2 bits

/-! ## Testing -/

/-- A power modulo `m`, by repeated squaring. -/
def powerMod (m x n : Nat) : Nat :=
  if n = 0 then 1 % m
  else
    let half := powerMod m (x * x % m) (n / 2)
    if n % 2 = 0 then half else x * half % m
termination_by n

/-- The small primes that a candidate is divided by, which are also the bases of the test. -/
def smallPrimes : List Nat :=
  [2, 3, 5, 7, 11, 13, 17, 19, 23, 29, 31, 37, 41, 43, 47, 53, 59, 61, 67, 71, 73, 79, 83, 89, 97,
    101, 103, 107, 109, 113, 127, 131, 137, 139, 149, 151, 157, 163, 167, 173, 179, 181, 191, 193,
    197, 199, 211, 223, 227, 229, 233, 239, 241, 251]

/-- Whether repeated squaring reaches minus one. -/
def reachesMinusOne (n : Nat) : Nat → Nat → Bool
  | 0, _ => false
  | steps + 1, x => x = n - 1 || reachesMinusOne n steps (x * x % n)

/-- `n` without its factors of two, and how many there are. -/
def oddPart : Nat → Nat → Nat × Nat
  | 0, n => (n, 0)
  | fuel + 1, n =>
    if n % 2 = 0 && n ≠ 0 then
      let (odd, twos) := oddPart fuel (n / 2)
      (odd, twos + 1)
    else (n, 0)

/-- Whether an odd number passes the test with a base. -/
def passes (n base : Nat) : Bool :=
  let (odd, twos) := oddPart n.log2 (n - 1)
  let x := powerMod n base odd
  x = 1 || reachesMinusOne n twos x

/-- How many bases are tried. -/
def rounds : Nat := 20

/-- Whether a number above the small primes is very likely prime. -/
def isLikelyPrime (n : Nat) : Bool :=
  smallPrimes.all (fun p => n % p ≠ 0) && (smallPrimes.take rounds).all (passes n)

/-! ## Finding -/

/-- An odd number of exactly `bits` bits whose two highest bits are set. -/
def candidate (seed : Bytes) (start bits : Nat) : Nat :=
  let n := drawnNumber seed start (bits - 2)
  Nat.pow 2 (bits - 1) + Nat.pow 2 (bits - 2) + n / 2 * 2 + 1

/-- The first odd number from `n` on that is very likely prime and whose predecessor has no factor
    in common with the prime `e`. -/
def primeFrom? (e : Nat) : Nat → Nat → Option Nat
  | 0, _ => none
  | tries + 1, n =>
    if (n - 1) % e ≠ 0 && isLikelyPrime n then some n else primeFrom? e tries (n + 2)

end Latchkey.Rsa

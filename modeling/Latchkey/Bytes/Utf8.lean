import Latchkey.Bytes.Basic

set_option autoImplicit false

/-! # Faults in UTF-8

Where bytes stop being UTF-8, and how many of them are at fault: a sequence can break off at the
end, or hold a byte that does not belong where it stands. -/

namespace Latchkey.Bytes

/-- Why bytes are not UTF-8. Both kinds say how many bytes before them are. -/
inductive Utf8Fault
  /-- So many bytes, from an index on, start no character. -/
  | broken (index length : Nat)
  /-- The last character is incomplete. -/
  | incomplete (index : Nat)
deriving DecidableEq, Repr

/-- The wording of a fault. -/
def Utf8Fault.message : Utf8Fault → String
  | .broken index length => s!"invalid utf-8 sequence of {length} bytes from index {index}"
  | .incomplete index => s!"incomplete utf-8 byte sequence from index {index}"

/-- The ranges of the bytes that follow a first byte, if that starts a character. -/
def continuations? (first : UInt8) : Option (List (UInt8 × UInt8)) :=
  let any : UInt8 × UInt8 := (0x80, 0xBF)
  if first ≤ 0x7F then some []
  else if 0xC2 ≤ first ∧ first ≤ 0xDF then some [any]
  else if first = 0xE0 then some [(0xA0, 0xBF), any]
  else if first = 0xED then some [(0x80, 0x9F), any]
  else if 0xE1 ≤ first ∧ first ≤ 0xEF then some [any, any]
  else if first = 0xF0 then some [(0x90, 0xBF), any, any]
  else if 0xF1 ≤ first ∧ first ≤ 0xF3 then some [any, any, any]
  else if first = 0xF4 then some [(0x80, 0x8F), any, any]
  else none

/-- Goes through bytes whose index is known, within a character that began at `start` and of which
    `seen` bytes were read and those in `expected` are still to come. -/
def utf8FaultFrom (start seen : Nat) : List (UInt8 × UInt8) → Bytes → Option Utf8Fault
  | [], [] => none
  | [], b :: rest =>
    match continuations? b with
    | some expected => utf8FaultFrom (start + seen) 1 expected rest
    | none => some (.broken (start + seen) 1)
  | _ :: _, [] => some (.incomplete start)
  | (low, high) :: expected, b :: rest =>
    if low ≤ b ∧ b ≤ high then utf8FaultFrom start (seen + 1) expected rest
    else some (.broken start seen)

/-- The first fault, if there is one. -/
def utf8Fault? (bytes : Bytes) : Option Utf8Fault :=
  utf8FaultFrom 0 0 [] bytes

end Latchkey.Bytes

import Latchkey.Bytes.Basic

set_option autoImplicit false

/-! # Tagged values

The distinguished encoding of tagged values: a tag byte, the length in its shortest form, the
contents. Lengths up to two bytes are read, and any may be written. -/

namespace Latchkey.Der

/-! ## Tags -/

/-- The tag of an integer. -/
def integerTag : UInt8 := 0x02
/-- The tag of a bit string. -/
def bitStringTag : UInt8 := 0x03
/-- The tag of an octet string. -/
def octetStringTag : UInt8 := 0x04
/-- The tag of the empty value. -/
def nullTag : UInt8 := 0x05
/-- The tag of an object identifier. -/
def identifierTag : UInt8 := 0x06
/-- The tag of a sequence. -/
def sequenceTag : UInt8 := 0x30

/-! ## Writing -/

/-- A length in its shortest form. -/
def lengthBytes (n : Nat) : Bytes :=
  if n < 128 then [UInt8.ofNat n]
  else
    let digits := Bytes.ofNatMinimal n
    UInt8.ofNat (128 + digits.length) :: digits

/-- A tagged value. -/
def tagged (tag : UInt8) (contents : Bytes) : Bytes :=
  tag :: lengthBytes contents.length ++ contents

/-- A natural number as an integer: a zero byte goes in front of a set top bit. -/
def natural (n : Nat) : Bytes :=
  let digits := Bytes.ofNatMinimal n
  match digits with
  | [] => tagged integerTag [0]
  | b :: _ => tagged integerTag (if b < 128 then digits else 0 :: digits)

/-- A sequence of encoded values. -/
def sequence (values : List Bytes) : Bytes :=
  tagged sequenceTag values.flatten

/-! ## Reading -/

/-- The length at the head of the bytes; only the shortest form counts. -/
def length? : Bytes → Option (Nat × Bytes)
  | b :: rest =>
    if b < 0x80 then some (b.toNat, rest)
    else if b = 0x81 then
      match rest with
      | c :: rest => if c < 0x80 then none else some (c.toNat, rest)
      | [] => none
    else if b = 0x82 then
      match rest with
      | c :: d :: rest =>
        let n := 256 * c.toNat + d.toNat
        if n < 256 then none else some (n, rest)
      | _ => none
    else none
  | [] => none

/-- The tagged value at the head of the bytes, and what follows it. -/
def next? : Bytes → Option ((UInt8 × Bytes) × Bytes)
  | tag :: rest =>
    if tag &&& 0x1f = 0x1f then none
    else
      match length? rest with
      | some (n, rest) =>
        if n ≤ rest.length then some ((tag, rest.take n), rest.drop n) else none
      | none => none
  | [] => none

/-- The contents of the value at the head, if it has the expected tag. -/
def expect? (tag : UInt8) (bytes : Bytes) : Option (Bytes × Bytes) :=
  match next? bytes with
  | some ((found, contents), rest) => if found = tag then some (contents, rest) else none
  | none => none

/-- The natural number at the head of the bytes, in its shortest form. -/
def natural? (bytes : Bytes) : Option (Nat × Bytes) :=
  match expect? integerTag bytes with
  | some ([], _) => none
  | some (b :: more, rest) =>
    if b = 0 then
      match more with
      | [] => some (0, rest)
      | c :: _ => if c < 0x80 then none else some (Bytes.toNatBE more, rest)
    else if b < 0x80 then some (Bytes.toNatBE (b :: more), rest)
    else none
  | none => none

/-- The bits of a bit string's contents, if they fill whole bytes. -/
def wholeBits? : Bytes → Option Bytes
  | 0 :: bits => some bits
  | _ => none

end Latchkey.Der

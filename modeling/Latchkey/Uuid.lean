import Latchkey.Bytes.Basic

set_option autoImplicit false

/-! # Unique identifiers

A 128-bit number, written as 32 hexadecimal digits in five groups. Identifiers are compared as
numbers. Reading also takes the digits without hyphens, and the grouped form in braces or behind
`urn:uuid:`; a text that is none of these is answered with the first thing wrong with it. -/

namespace Latchkey

/-- A 128-bit identifier. -/
structure Uuid where
  bits : BitVec 128
deriving DecidableEq, Repr

namespace Uuid

/-- The identifier's number; identifiers are ordered by it. -/
def toNat (u : Uuid) : Nat :=
  u.bits.toNat

/-- The identifier of a number, taken modulo `2¹²⁸`. -/
def ofNat (n : Nat) : Uuid :=
  ⟨BitVec.ofNat 128 n⟩

/-- The identifier whose bits are all zero. -/
def zero : Uuid :=
  ofNat 0

theorem toNat_lt (u : Uuid) : u.toNat < Nat.pow 2 128 :=
  u.bits.isLt

@[simp] theorem ofNat_toNat (u : Uuid) : ofNat u.toNat = u := by
  simp [ofNat, toNat]

theorem toNat_injective {u v : Uuid} (h : u.toNat = v.toNat) : u = v := by
  rw [← ofNat_toNat u, h, ofNat_toNat]

/-! ## Making identifiers -/

/-- Sets the version digit and the two variant bits. -/
def stamp (version n : Nat) : Uuid :=
  let high := n / Nat.pow 2 80 % Nat.pow 2 48
  let middle := n / Nat.pow 2 64 % Nat.pow 2 12
  let low := n % Nat.pow 2 62
  ofNat (Nat.pow 2 80 * high + Nat.pow 2 76 * version + Nat.pow 2 64 * middle + Nat.pow 2 63 + low)

/-- A random identifier from 128 drawn bits. -/
def random (drawn : Nat) : Uuid :=
  stamp 4 drawn

/-- A time-ordered identifier: the Unix time in milliseconds, then a counter, then drawn bits. -/
def timeOrdered (millis counter drawn : Nat) : Uuid :=
  stamp 7 (Nat.pow 2 80 * millis + Nat.pow 2 64 * (counter / Nat.pow 2 30)
    + Nat.pow 2 32 * (counter % Nat.pow 2 30) + drawn % Nat.pow 2 32)

/-- The version digit. -/
def version (u : Uuid) : Nat :=
  u.toNat / Nat.pow 2 76 % 16

/-! ## Writing -/

/-- A lower-case hexadecimal digit. -/
def hexDigit (n : Nat) : Char :=
  if n < 10 then Char.ofNat (n + 48) else Char.ofNat (n + 87)

/-- The last `width` hexadecimal digits of a number, most significant first. -/
def hexDigits : Nat → Nat → List Char
  | 0, _ => []
  | width + 1, n => hexDigits width (n / 16) ++ [hexDigit (n % 16)]

/-- How many digits each group has. -/
def groupWidths : List Nat := [8, 4, 4, 4, 12]

/-- The groups of the given widths with hyphens between them. -/
def joinGroups : List Nat → List Char → List Char
  | [], _ => []
  | [_], digits => digits
  | width :: widths, digits =>
    digits.take width ++ '-' :: joinGroups widths (digits.drop width)

/-- The characters of an identifier. -/
def toChars (u : Uuid) : List Char :=
  joinGroups groupWidths (hexDigits 32 u.toNat)

/-- The text of an identifier. -/
def toText (u : Uuid) : String :=
  String.ofList u.toChars

/-! ## Reading -/

/-- Why a text is no identifier. -/
inductive ParseError
  /-- Only digits, but not 32 of them. -/
  | length (found : Nat)
  /-- A character that is neither a digit nor a hyphen, at a byte offset. -/
  | badCharacter (found : Char) (offset : Nat)
  /-- Not five groups. -/
  | groupCount (found : Nat)
  /-- A group of the wrong length. -/
  | groupLength (group expected found : Nat)
deriving Repr, DecidableEq

/-- The wording of a reading failure. -/
def ParseError.message : ParseError → String
  | .length found => s!"invalid length: found {found}"
  | .badCharacter found offset =>
    "invalid character: found `" ++ found.toString ++ s!"` at {offset}"
  | .groupCount found => s!"invalid group count: expected 5, found {found}"
  | .groupLength group expected found =>
    s!"invalid group length in group {group}: expected {expected}, found {found}"

/-- The value of a hexadecimal digit in either case. -/
def hexValue? (c : Char) : Option Nat :=
  let n := c.toNat
  if 48 ≤ n && n ≤ 57 then some (n - 48)
  else if 97 ≤ n && n ≤ 102 then some (n - 87)
  else if 65 ≤ n && n ≤ 70 then some (n - 55)
  else none

/-- The number that the digits write after the digits of `high`. -/
def hexNumber? : Nat → List Char → Option Nat
  | high, [] => some high
  | high, c :: rest =>
    match hexValue? c with
    | some d => hexNumber? (16 * high + d) rest
    | none => none

/-- The digits of groups of the given widths, without the hyphens. -/
def splitGroups? : List Nat → List Char → Option (List Char)
  | [], _ => none
  | [width], text => if text.length = width then some text else none
  | width :: widths, text =>
    match text.drop width with
    | '-' :: rest => (splitGroups? widths rest).map (text.take width ++ ·)
    | _ => none

/-- The scheme in front of the URN form. -/
def urnScheme : List Char := "urn:uuid:".toList

/-- What stands between braces. -/
def insideBraces? : List Char → Option (List Char)
  | '{' :: rest => if rest.getLast? = some '}' then some rest.dropLast else none
  | _ => none

/-- What follows the URN scheme, in either case. -/
def afterScheme? (text : List Char) : Option (List Char) :=
  if (text.take urnScheme.length).map Char.toLower = urnScheme then
    some (text.drop urnScheme.length)
  else none

/-- The 32 digits that a text in one of the accepted forms holds. -/
def digits? (text : List Char) : Option (List Char) :=
  if text.length = 32 then some text
  else
    match insideBraces? text, afterScheme? text with
    | some inner, _ => splitGroups? groupWidths inner
    | none, some inner => splitGroups? groupWidths inner
    | none, none => splitGroups? groupWidths text

/-- The identifier that the characters write. -/
def ofChars? (text : List Char) : Option Uuid :=
  (digits? text).bind fun digits => (hexNumber? 0 digits).map ofNat

/-- The first character that is neither a digit nor a hyphen, with its byte offset. -/
def firstBadCharacter? : Nat → List Char → Option (Char × Nat)
  | _, [] => none
  | offset, c :: rest =>
    if c = '-' || (hexValue? c).isSome then firstBadCharacter? (offset + c.utf8Size) rest
    else some (c, offset)

/-- The lengths of the groups that the hyphens separate. -/
def groupLengths : List Char → List Nat
  | [] => [0]
  | c :: rest =>
    match groupLengths rest with
    | n :: more => if c = '-' then 0 :: n :: more else (n + 1) :: more
    | [] => []

/-- How many bytes the characters take. -/
def byteLength (text : List Char) : Nat :=
  text.foldl (fun n c => n + c.utf8Size) 0

/-- What is wrong with a text that is no identifier: a bad character before anything else, then a
    wrong number of digits or groups, then the first group of a wrong length. The length of the last
    group is counted in the whole text. -/
def complaint (text : List Char) : ParseError :=
  let (inner, offset, bare) :=
    match insideBraces? text, afterScheme? text with
    | some inner, _ => (inner, 1, false)
    | none, some inner => (inner, urnScheme.length, false)
    | none, none => (text, 0, true)
  match firstBadCharacter? offset inner with
  | some (found, offset) => .badCharacter found offset
  | none =>
    let groups := groupLengths inner
    if groups.length = 1 && bare then .length (byteLength text)
    else if groups.length ≠ 5 then .groupCount groups.length
    else
      match (groupWidths.dropLast.zip groups).zipIdx.find? fun ((expected, found), _) =>
        expected ≠ found with
      | some ((expected, found), group) => .groupLength group expected found
      | none => .groupLength 4 12 (byteLength text - 24)

/-- Reads an identifier. -/
def parse (text : String) : Except ParseError Uuid :=
  match ofChars? text.toList with
  | some u => .ok u
  | none => .error (complaint text.toList)

end Uuid

end Latchkey

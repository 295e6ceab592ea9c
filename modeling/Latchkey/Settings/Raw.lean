import Latchkey.Decimal.Numeral
import Latchkey.Decimal.Shortest
import Latchkey.Json.Value

set_option autoImplicit false

/-! # Raw settings

What a source of settings says before it is known which setting wants it: a tree of named values. A
setting then takes a raw value in its own way, and the ways are generous: numbers are taken for
texts and texts for numbers. -/

namespace Latchkey

/-- A raw value. -/
inductive Raw
  | null
  | bool (value : Bool)
  | integer (value : Int)
  | float (value : Binary64)
  | text (value : String)
  | list (elements : List Raw)
  | table (fields : List (String × Raw))

namespace Raw

/-- The fields of a table; each name stands once. -/
abbrev Fields := List (String × Raw)

/-- The field of a name. -/
def Fields.find? : Fields → String → Option Raw
  | [], _ => none
  | (other, value) :: rest, name => if name = other then some value else Fields.find? rest name

/-- Sets a field. -/
def Fields.put : Fields → String → Raw → Fields
  | [], name, value => [(name, value)]
  | (other, old) :: rest, name, value =>
    if name = other then (name, value) :: rest else (other, old) :: Fields.put rest name value

theorem Fields.find?_put (fields : Fields) (name other : String) (value : Raw) :
    (fields.put name value).find? other
      = if other = name then some value else fields.find? other := by
  induction fields with
  | nil => rfl
  | cons field rest ih =>
    obtain ⟨n, v⟩ := field
    by_cases hn : name = n
    · subst hn
      by_cases h : other = name <;> simp [Fields.put, Fields.find?, h]
    · by_cases h : other = n
      · subst h
        simp [Fields.put, Fields.find?, hn, Ne.symm hn]
      · simp [Fields.put, Fields.find?, hn, h, ih]

/-- The fields of a table, and none of anything else. -/
def fields : Raw → Fields
  | .table fields => fields
  | _ => []

/-- The elements of a list, and none of anything else. -/
def elements : Raw → List Raw
  | .list elements => elements
  | _ => []

/-! ## Sources -/

/-- The lower case of a character that is ASCII or, as the Kelvin sign is, has an ASCII lower case.
    -/
def lowerChar (c : Char) : Char :=
  if c = '\u212a' then 'k' else c.toLower

/-- A text in lower case, as far as that is ASCII. -/
def lower (text : String) : List Char :=
  text.toList.map lowerChar

/-- What a text stands for that has no notation for kinds of values: a truth value, an integer, a
    double, else the text. -/
def ofPlainText (text : String) : Raw :=
  let word := String.ofList (lower text)
  if word = "true" then .bool true
  else if word = "false" then .bool false
  else match Numeral.integer? text.toList with
    | some n => .integer n
    | none =>
      match Numeral.double? text.toList with
      | some x => .float x
      | none => .text text

/-- A JSON number; an integer beyond 64 bits with a sign is a double. -/
def ofJsonNumber : Json.Number → Raw
  | .int n => if Numeral.fitsSigned n then .integer n else .float (.ofNat n.toNat)
  | .float x => .float x

mutual

/-- A JSON value. -/
def ofJson : Json → Raw
  | .null => .null
  | .bool value => .bool value
  | .number value => ofJsonNumber value
  | .string value => .text value
  | .array elements => .list (ofJsonElements elements)
  | .object members => .table (ofJsonMembers members)

/-- JSON values, in order. -/
def ofJsonElements : List Json → List Raw
  | [] => []
  | value :: rest => ofJson value :: ofJsonElements rest

/-- The members of a JSON object. -/
def ofJsonMembers : List (String × Json) → Fields
  | [] => []
  | (name, value) :: rest => (name, ofJson value) :: ofJsonMembers rest

end

/-! ## Taking values -/

/-- A value taken for a text. -/
def text? : Raw → Option String
  | .text value => some value
  | .bool value => some (if value then "true" else "false")
  | .integer value => some (toString value)
  | .float value => some value.toPlainText
  | _ => none

/-- The words that are taken for one and zero. -/
def switch? (text : String) : Option Bool :=
  let word := String.ofList (lower text)
  if ["true", "on", "yes"].contains word then some true
  else if ["false", "off", "no"].contains word then some false
  else none

/-- The integer between two bounds that is nearest to a double; no number counts as zero. -/
def clamped (low high : Int) : Binary64 → Int
  | .infinite negative => if negative then low else high
  | x => max low (min high (x.roundAway.getD 0))

/-- A value taken for a signed integer of 64 bits. -/
def integer? : Raw → Option Int
  | .integer value => some value
  | .bool value => some value.toInt
  | .float value => some (clamped Numeral.leastInteger Numeral.greatestInteger value)
  | .text value =>
    match switch? value with
    | some on => some on.toInt
    | none => Numeral.integer? value.toList
  | _ => none

/-- A value taken for an unsigned integer of 64 bits. -/
def natural? : Raw → Option Nat
  | .integer value => if value < 0 then none else some value.toNat
  | .bool value => some value.toNat
  | .float value => some (clamped 0 Numeral.greatestNatural value).toNat
  | .text value =>
    match switch? value with
    | some on => some on.toNat
    | none => Numeral.natural? value.toList
  | _ => none

/-- A value taken for an unsigned integer of 32 bits: the lower half of one of 64. -/
def natural32? (raw : Raw) : Option Nat :=
  raw.natural?.map (· % Nat.pow 2 32)

/-- A value taken for a word out of a list: the word as a text or as the name of the only field. -/
def word? : Raw → Option String
  | .text value => some value
  | .table [(name, _)] => some name
  | _ => none

/-- A value taken for a section, given the names of its fields: a table, or a list of the first ones
    in their order. -/
def section? (names : List String) : Raw → Option Fields
  | .table fields => some fields
  | .list elements => some (names.zip elements)
  | _ => none

/-- A field that may be absent. -/
def Fields.orElse? {α : Type} (fields : Fields) (name : String) (take : Raw → Option α)
    (default : α) : Option α :=
  match fields.find? name with
  | some raw => take raw
  | none => some default

end Raw

end Latchkey

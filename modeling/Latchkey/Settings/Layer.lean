import Latchkey.Settings.Raw

set_option autoImplicit false

/-! # Layers of raw settings

Sources are laid over one another, the most particular one last. Where a table is laid over a table
their fields are laid over one another, and every other value takes the place of what was there. A
source names its values by paths, so that it can set one field of a section and leave the others. -/

namespace Latchkey.Raw

/-! ## Laying one value over another -/

mutual

/-- A value laid over what was there before. A table without fields changes nothing. -/
def overlay (old : Option Raw) : Raw → Raw
  | .table [] => old.getD (.table [])
  | .table (field :: more) =>
    .table (overlayFields (old.elim [] Raw.fields) (field :: more))
  | value => value

/-- Fields laid over those that were there before, one after the other. -/
def overlayFields (old : Fields) : List (String × Raw) → Fields
  | [] => old
  | (name, value) :: rest =>
    overlayFields (old.put name (overlay (old.find? name) value)) rest

end

/-! ## Paths -/

/-- One step of a path: into a field of a table, or to an element of a list. Elements are counted
    from zero, or backwards from the end with negative numbers. -/
inductive Step
  | field (name : String)
  | element (index : Int)
deriving DecidableEq, Repr

/-- A way into a tree, which begins with a field. -/
structure Path where
  first : String
  steps : List Step := []
deriving DecidableEq, Repr

namespace Path

/-- Whether a character may stand in a name within a path. -/
def isNameChar (c : Char) : Bool :=
  c.isAlphanum || c = ' ' || c = '_' || c = '-'

/-- Whether a character is a blank. -/
def isBlank (c : Char) : Bool :=
  c = ' ' || c = '\t'

/-- The name at the head of a text. -/
def name? (text : List Char) : Option (String × List Char) :=
  let name := text.takeWhile isNameChar
  if name.isEmpty then none else some (String.ofList name, text.dropWhile isNameChar)

/-- The number of an element in front of a closing bracket. -/
def index? (text : List Char) : Option (Int × List Char) :=
  let text := text.dropWhile isBlank
  let (sign, rest) := match text with
    | '-' :: rest => (-1, rest)
    | rest => ((1 : Int), rest)
  let (digits, rest) := Numeral.takeDigits rest
  let n := sign * Numeral.ofDigits digits
  match rest.dropWhile isBlank with
  | ']' :: rest => if digits.isEmpty || !Numeral.fitsSigned n then none else some (n, rest)
  | _ => none

/-- The steps that make up a whole text. Each has two characters at least, so the length of the text
    is fuel enough. -/
def steps? : Nat → List Char → Option (List Step)
  | _, [] => some []
  | 0, _ :: _ => none
  | fuel + 1, '.' :: rest => do
    let (name, rest) ← name? rest
    let more ← steps? fuel rest
    return .field name :: more
  | fuel + 1, '[' :: rest => do
    let (index, rest) ← index? rest
    let more ← steps? fuel rest
    return .element index :: more
  | _ + 1, _ :: _ => none

/-- The path that a key writes. -/
def parse? (key : String) : Option Path := do
  let (first, rest) ← name? key.toList
  let steps ← steps? rest.length rest
  return ⟨first, steps⟩

/-- The path of a key; one that writes no path is a name as a whole. -/
def ofKey (key : String) : Path :=
  (parse? key).getD ⟨key, []⟩

end Path

/-! ## Setting a value at a path -/

/-- Where an element stands in a list of a length, unless it lies in front of the list. -/
def position? (length : Nat) (index : Int) : Option Nat :=
  if 0 ≤ index then some index.toNat
  else if (-index).toNat ≤ length then some (length - (-index).toNat)
  else none

/-- Changes an element of a list, which is made long enough first. -/
def changeElement (elements : List Raw) (index : Int) (change : Raw → Raw) : List Raw :=
  match position? elements.length index with
  | none => elements
  | some i =>
    let elements := elements ++ List.replicate (i + 1 - elements.length) .null
    elements.modify i change

/-- The value that takes the place of `old` when `value` is set at the end of some steps. On the way
    tables and lists are made of whatever else is there; at the end a field is laid over, an element
    replaced. -/
def placed (value : Raw) : List Step → Option Raw → Raw
  | [], old => overlay old value
  | .field name :: steps, old =>
    let fields : Fields := old.elim [] Raw.fields
    .table (fields.put name (placed value steps (fields.find? name)))
  | .element index :: steps, old =>
    .list (changeElement (old.elim [] Raw.elements) index fun element =>
      if steps.isEmpty then value else placed value steps (some element))

/-- Sets a value at a path. -/
def Fields.set (fields : Fields) (path : Path) (value : Raw) : Fields :=
  fields.put path.first (placed value path.steps (fields.find? path.first))

/-- What one source says: values by their keys. -/
abbrev Layer := List (String × Raw)

/-- Lays a source over others. -/
def Fields.lay (fields : Fields) (layer : Layer) : Fields :=
  layer.foldl (fun fields (key, value) => fields.set (Path.ofKey key) value) fields

/-- Sources laid over one another, the first one at the bottom. -/
def ofLayers (layers : List Layer) : Fields :=
  layers.foldl Fields.lay []

end Latchkey.Raw

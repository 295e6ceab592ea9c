import Latchkey.Json.Number
import Latchkey.Json.Text

set_option autoImplicit false

/-! # JSON values

A value keeps what a JSON text means. The members of an object are in the order of their names, each
name once; where a text repeats a name, the last member counts. Values are nested at most 127 deep.
-/

namespace Latchkey

/-- A JSON value. -/
inductive Json
  | null
  | bool (value : Bool)
  | number (value : Json.Number)
  | string (value : String)
  | array (elements : List Json)
  | object (members : List (String × Json))

namespace Json

/-- The members of an object, in the order of their names. -/
abbrev Members := List (String × Json)

/-- Sets a member, keeping the order. -/
def insertMember (name : String) (value : Json) : Members → Members
  | [] => [(name, value)]
  | (other, old) :: rest =>
    if name < other then (name, value) :: (other, old) :: rest
    else if name = other then (name, value) :: rest
    else (other, old) :: insertMember name value rest

/-- The member of a name. -/
def member? (name : String) (members : Members) : Option Json :=
  List.lookup name members

/-! ## Reading -/

/-- How deep values may be nested. -/
def maxDepth : Nat := 127

mutual

/-- The value of a tree that has at most `depth` levels of arrays and objects. -/
def ofTree? (depth : Nat) : Tree → Option Json
  | .null => some .null
  | .bool value => some (.bool value)
  | .number numeral => (Number.ofNumeral? numeral).map .number
  | .string token => (textOf? token).map .string
  | .array elements =>
    match depth with
    | 0 => none
    | depth + 1 => (ofTrees? depth elements).map .array
  | .object members =>
    match depth with
    | 0 => none
    | depth + 1 => (ofMembers? depth members []).map .object

/-- The values of trees, in order. -/
def ofTrees? (depth : Nat) : List Tree → Option (List Json)
  | [] => some []
  | tree :: rest => do
    let value ← ofTree? depth tree
    let values ← ofTrees? depth rest
    return value :: values

/-- Sets the members one after the other. -/
def ofMembers? (depth : Nat) : List (Bytes × Tree) → Members → Option Members
  | [], members => some members
  | (key, tree) :: rest, members => do
    let name ← textOf? key
    let value ← ofTree? depth tree
    ofMembers? depth rest (insertMember name value members)

end

/-- The value of a text. -/
def parse? (text : Bytes) : Option Json :=
  (Tree.parse? text).bind (ofTree? maxDepth)

/-! ## Writing -/

mutual

/-- The text of a value, without white space. -/
def render : Json → Bytes
  | .null => Tree.nullWord
  | .bool true => Tree.trueWord
  | .bool false => Tree.falseWord
  | .number value => value.render
  | .string value => quote value
  | .array elements => 0x5b :: renderElements elements ++ [0x5d]
  | .object members => 0x7b :: renderMembers members ++ [0x7d]

/-- Values with commas between them. -/
def renderElements : List Json → Bytes
  | [] => []
  | [value] => render value
  | value :: rest => render value ++ 0x2c :: renderElements rest

/-- Members with commas between them. -/
def renderMembers : Members → Bytes
  | [] => []
  | [(name, value)] => quote name ++ 0x3a :: render value
  | (name, value) :: rest => quote name ++ 0x3a :: render value ++ 0x2c :: renderMembers rest

end

/-- The text of a value as a string. -/
def toText (value : Json) : String :=
  (Bytes.toText? value.render).getD ""

/-! ## Building -/

/-- An integer. -/
def int (value : Int) : Json :=
  .number (.int value)

/-- An object of the given members, put in order. -/
def record (members : Members) : Json :=
  .object (members.foldl (fun found (name, value) => insertMember name value found) [])

end Json

end Latchkey

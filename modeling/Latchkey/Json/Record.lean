import Latchkey.Decimal.Numeral
import Latchkey.Json.Value

set_option autoImplicit false

/-! # Records in JSON

A record is read from an object, where each of its fields may stand once and other members are
passed over, or from an array that lists the fields in their order. Names are texts, so a member
whose name is no text spoils the object. -/

namespace Latchkey.Json

/-- The fields found, by name. -/
abbrev Fields := List (String × Tree)

/-- The members of an object with their names resolved. -/
def namedMembers? : List (Bytes × Tree) → Option Fields
  | [] => some []
  | (key, tree) :: rest => do
    let name ← textOf? key
    let more ← namedMembers? rest
    return (name, tree) :: more

/-- Whether no name is repeated. -/
def allDistinct : List String → Bool
  | [] => true
  | name :: rest => !rest.contains name && allDistinct rest

/-- The known fields of an object, each at most once. -/
def objectFields? (names : List String) (members : List (Bytes × Tree)) : Option Fields := do
  let named ← namedMembers? members
  let known := named.filter fun (name, _) => names.contains name
  guard (allDistinct (known.map (·.1)))
  return known

/-- The fields of a record, all of which an array has to list. -/
def recordFields? (names : List String) : Tree → Option Fields
  | .object members => objectFields? names members
  | .array elements => if elements.length = names.length then some (names.zip elements) else none
  | _ => none

/-- The fields of a record with defaults, of which an array may list the first ones. -/
def partialFields? (names : List String) : Tree → Option Fields
  | .object members => objectFields? names members
  | .array elements => if elements.length ≤ names.length then some (names.zip elements) else none
  | _ => none

/-- The tree of a field. -/
def Fields.find? (fields : Fields) (name : String) : Option Tree :=
  List.lookup name fields

/-- A field that has to be there. -/
def Fields.required? {α : Type} (fields : Fields) (name : String) (read : Tree → Option α) :
    Option α :=
  (fields.find? name).bind read

/-- A field that may be absent. -/
def Fields.orElse? {α : Type} (fields : Fields) (name : String) (read : Tree → Option α)
    (default : α) : Option α :=
  match fields.find? name with
  | some tree => read tree
  | none => some default

/-- A field that may be absent or null. -/
def Fields.optional? {α : Type} (fields : Fields) (name : String) (read : Tree → Option α) :
    Option (Option α) :=
  match fields.find? name with
  | none | some .null => some none
  | some tree => (read tree).map some

namespace Tree

/-- A text. -/
def text? : Tree → Option String
  | .string token => textOf? token
  | _ => none

/-- A truth value. -/
def bool? : Tree → Option Bool
  | .bool value => some value
  | _ => none

/-- An integer between two bounds. -/
def integer? (low high : Int) : Tree → Option Int
  | .number numeral =>
    match Number.ofNumeral? numeral with
    | some (.int value) => if low ≤ value ∧ value ≤ high then some value else none
    | _ => none
  | _ => none

/-- A signed 64-bit integer. -/
def int64? : Tree → Option Int :=
  integer? Numeral.leastInteger Numeral.greatestInteger

/-- An unsigned integer of the given width. -/
def unsigned? (width : Nat) (tree : Tree) : Option Nat :=
  (integer? 0 (Nat.pow 2 width - 1 : Nat) tree).map Int.toNat

/-- The elements of an array, all read alike. -/
def list? {α : Type} (read : Tree → Option α) : Tree → Option (List α)
  | .array elements => elements.mapM read
  | _ => none

end Tree

end Latchkey.Json

import Latchkey.Text.Quoted

set_option autoImplicit false

/-! # Descriptions

The one-line form in which a record shows itself to a developer: its name, and its fields in braces.
A record that holds something secret shows its other fields and two dots. -/

namespace Latchkey.Text

/-- A record with all its fields. -/
def described (name : String) (fields : List (String × String)) : String :=
  name ++ " \x7b " ++ ", ".intercalate (fields.map fun (field, text) => field ++ ": " ++ text)
    ++ " \x7d"

/-- A record with some of its fields. -/
def describedPartly (name : String) (fields : List (String × String)) : String :=
  name ++ " \x7b " ++ String.join (fields.map fun (field, text) => field ++ ": " ++ text ++ ", ")
    ++ ".. \x7d"

/-- A value that may be absent. -/
def describedOption (text : Option String) : String :=
  match text with
  | some text => "Some(" ++ text ++ ")"
  | none => "None"

end Latchkey.Text

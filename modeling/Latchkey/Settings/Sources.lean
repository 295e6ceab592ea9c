import Latchkey.Settings.Assignments
import Latchkey.Settings.Layer
import Latchkey.Settings.Taking
import Latchkey.Settings.Validation
import Latchkey.Toml.Reader

set_option autoImplicit false

/-! # Where settings come from

Settings come from three sources: what an environment implies, a file, and the variables of the
process. The variables are laid over the file, and what comes of that over what is implied. The
result has to pass the checks. -/

namespace Latchkey

/-- Why settings could not be loaded. -/
inductive LoadFault
  /-- A source cannot be read, or says something that no setting takes. -/
  | unusable
  /-- The settings break a rule. -/
  | invalid (fault : SettingsFault)
deriving DecidableEq, Repr

/-- What a process can read: files by their names, and the values of its variables. -/
structure Sources where
  files : List (String × String) := []
  bindings : List (String × String) := []

namespace Sources

/-! ## Variables -/

/-- The word that names of variables begin with. -/
def variableRoot : String := "KEYSTONE"

/-- What stands between the parts of a variable's name. -/
def variableSeparator : String := "__"

/-- A name with points for its separators. -/
def pointed : List Char → List Char
  | '_' :: '_' :: rest => '.' :: pointed rest
  | c :: rest => c :: pointed rest
  | [] => []

/-- The key that a variable of this name sets, if it sets one. Capitals do not matter. -/
def keyOfVariable? (name : String) : Option String :=
  let start := Raw.lower (variableRoot ++ variableSeparator)
  let name := Raw.lower name
  if start.isPrefixOf name then some (String.ofList (pointed (name.drop start.length))) else none

/-- What the variables say. -/
def ofVariables (bindings : List (String × String)) : Raw.Layer :=
  bindings.filterMap fun (name, value) =>
    (keyOfVariable? name).map fun key => (key, Raw.ofPlainText value)

/-! ## Files -/

/-- The notations that files can have. -/
inductive FileFormat
  | toml
  | json
deriving DecidableEq, Repr

/-- The extension of file names in a notation. -/
def FileFormat.extension : FileFormat → String
  | .toml => "toml"
  | .json => "json"

/-- All notations. -/
def FileFormat.all : List FileFormat := [.toml, .json]

/-- What a file in a notation says. A JSON text that is no object says nothing. -/
def FileFormat.read? (text : String) : FileFormat → Option Raw.Layer
  | .toml => Toml.parse? text
  | .json => (Json.parse? (Bytes.ofText text)).map fun json => (Raw.ofJson json).fields

/-- The extension of a file name: what stands behind its last point, unless it begins with that. -/
def extension (name : String) : String :=
  let backwards := name.toList.reverse.takeWhile (· ≠ '/')
  match backwards.dropWhile (· ≠ '.') with
  | [] | [_] => ""
  | _ => String.ofList (backwards.takeWhile (· ≠ '.')).reverse

/-- The file of a name and its notation. A name that no file has may lack its extension. -/
def file? (files : List (String × String)) (name : String) : Option (FileFormat × String) :=
  match files.lookup name with
  | some text =>
    (FileFormat.all.find? fun format => format.extension = extension name).map (·, text)
  | none => FileFormat.all.findSome? fun format =>
      (files.lookup (name ++ "." ++ format.extension)).map (format, ·)

/-- What the file of a name says; where there is none, nothing. -/
def ofFile? (files : List (String × String)) (name : String) : Option Raw.Layer :=
  match file? files name with
  | some (format, text) => format.read? text
  | none => some []

/-! ## Loading -/

/-- What an environment implies. -/
def ofEnvironment (e : Environment) : Raw.Layer :=
  [("environment", .text e.toText), ("logging.level", .text e.logging.level),
    ("logging.format", .text e.logging.format.toText)]

/-- The raw fields of a layer and, laid over it as one, a file with the variables over it. -/
def rawFields? (base : Raw.Layer) (file : String) (s : Sources) : Option Raw.Fields :=
  (ofFile? s.files file).map fun layer =>
    Raw.ofLayers [base, Raw.ofLayers [layer, ofVariables s.bindings]]

/-- Settings that a layer, a file and the variables make up. -/
def loadOver (base : Raw.Layer) (file : String) (s : Sources) : Except LoadFault Settings :=
  match (rawFields? base file s).bind Settings.ofFields? with
  | none => .error .unusable
  | some settings => (settings.validate.map fun () => settings).mapError .invalid

/-- The settings of an environment, which its file and the variables can change. -/
def loadFor (e : Environment) (s : Sources) : Except LoadFault Settings :=
  s.loadOver (ofEnvironment e) e.fileName

/-- The settings of a file, which the variables can change. -/
def loadFrom (file : String) (s : Sources) : Except LoadFault Settings :=
  s.loadOver [] file

/-- The sources with variables completed from a file of assignments. -/
def completedBy (assignments : String) (s : Sources) : Sources :=
  { s with bindings := Assignments.complete s.bindings assignments }

/-- The environment that the variables name. -/
def environment (s : Sources) : Environment :=
  .detect (s.bindings.lookup "ENVIRONMENT") (s.bindings.lookup "ENV")

/-- The settings of the environment that the variables name, these completed from a file of
    assignments. -/
def load (assignments : String) (s : Sources) : Except LoadFault Settings :=
  let s := s.completedBy assignments
  s.loadFor s.environment

end Sources

end Latchkey

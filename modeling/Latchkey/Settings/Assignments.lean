import Latchkey.Text.Blank

set_option autoImplicit false

/-! # Files of assignments

A file that assigns values to variables, a line for each, in the notation that shells have: quotes,
backslashes, comments and references to other variables. Such a file completes the variables that
are set, it does not change them. -/

namespace Latchkey.Assignments

/-- Variables and their values. -/
abbrev Variables := List (String × String)

/-! ## Lines -/

/-- What is open at some point of a line. -/
inductive Quoting
  | none
  | blank
  | escape
  | strong
  | strongEscape
  | weak
  | weakEscape
deriving DecidableEq, Repr

namespace Quoting

/-- What is open after a character that stands outside of quotes and is no blank. -/
def opened (c : Char) : Quoting :=
  if c = '\\' then .escape
  else if c = '"' then .weak
  else if c = '\'' then .strong
  else .none

/-- What is open after one more character. -/
def next (q : Quoting) (c : Char) : Quoting :=
  match q with
  | .none => if Text.isBlank c && c ≠ '\n' && c ≠ '\r' then .blank else opened c
  | .blank => opened c
  | .escape => .none
  | .strong => if c = '\\' then .strongEscape else if c = '\'' then .none else .strong
  | .strongEscape => .strong
  | .weak => if c = '\\' then .weakEscape else if c = '"' then .none else .weak
  | .weakEscape => .weak

end Quoting

/-- Cuts a text behind each line end. -/
def cutLines : List Char → List (List Char)
  | [] => []
  | '\n' :: rest => ['\n'] :: cutLines rest
  | c :: rest =>
    match cutLines rest with
    | [] => [[c]]
    | line :: lines => (c :: line) :: lines

/-- Goes through a line. Stops at a number sign behind a blank; says what is left of the line,
    whether it stopped, and what is open at the end. -/
def scan (q : Quoting) : List Char → List Char × Bool × Quoting
  | [] => ([], false, q)
  | c :: rest =>
    if q = .blank && c = '#' then ([], true, q)
    else
      let (kept, stopped, q) := scan (q.next c) rest
      (c :: kept, stopped, q)

/-- A text without the line end at its end. -/
def dropLineEnd (text : List Char) : List Char :=
  match text.reverse with
  | '\n' :: '\r' :: rest | '\n' :: rest => rest.reverse
  | _ => text

/-- Joins lines that end within quotes with those that follow them. The answer has `none` where the
    text ends too early. -/
def joinLines (before : List Char) (q : Quoting) : List (List Char) → List (Option (List Char))
  | [] => if q = .none then [] else [none]
  | line :: lines =>
    if (Text.trimStart (before ++ line)).head? = some '#' then some [] :: joinLines [] .none lines
    else
      let (kept, stopped, q) := scan q line
      if stopped then some (before ++ kept) :: joinLines [] .none lines
      else if q = .none then some (dropLineEnd (before ++ kept)) :: joinLines [] .none lines
      else joinLines (before ++ kept) q lines

/-! ## Values -/

/-- How far a reference to a variable has been read. -/
inductive Reference
  | none
  /-- Behind the dollar sign, with the letters of the name so far. -/
  | named (name : List Char)
  /-- Behind an opening brace. -/
  | braced (name : List Char)
deriving DecidableEq, Repr

/-- A value being read: the text so far and what is open. -/
structure Reading where
  text : List Char := []
  strong : Bool := false
  weak : Bool := false
  escaped : Bool := false
  /-- Behind the value, where only blanks and a comment can come. -/
  ended : Bool := false
  reference : Reference := .none

/-- The value of a variable, for which the ones that are set come first and those assigned earlier
    in the file next. -/
def valueOf (set assigned : Variables) (name : List Char) : List Char :=
  let name := String.ofList name
  ((set.lookup name <|> assigned.lookup name).getD "").toList

namespace Reading

/-- Adds a character to the text. -/
def push (r : Reading) (c : Char) : Reading :=
  { r with text := r.text ++ [c] }

/-- Adds the value of a variable to the text. -/
def refer (value : List Char → List Char) (name : List Char) (r : Reading) : Reading :=
  { r with text := r.text ++ value name, reference := .none }

/-- Takes a character within a reference. -/
def extend (value : List Char → List Char) (r : Reading) (c : Char) : Reading :=
  match r.reference with
  | .none => r
  | .named name =>
    if c.isAlphanum then { r with reference := .named (name ++ [c]) }
    else if c = '{' && name.isEmpty then { r with reference := .braced [] }
    else if c = '$' then { r.refer value name with reference := .named [] }
    else (r.refer value name).push c
  | .braced name =>
    if c = '}' then r.refer value name else { r with reference := .braced (name ++ [c]) }

/-- Takes a character outside of everything that has rules of its own. -/
def takeOpen (r : Reading) (c : Char) : Reading :=
  if c = '$' then { r with reference := .named [] }
  else if r.weak then
    if c = '"' then { r with weak := false }
    else if c = '\\' then { r with escaped := true }
    else r.push c
  else if c = '\'' then { r with strong := true }
  else if c = '"' then { r with weak := true }
  else if c = '\\' then { r with escaped := true }
  else if c = ' ' || c = '\t' then { r with ended := true }
  else r.push c

/-- The character that an escaped one stands for. -/
def escapeOf? (c : Char) : Option Char :=
  if c = 'n' then some '\n'
  else if c = '\\' || c = '\'' || c = '"' || c = '$' || c = ' ' then some c
  else none

/-- Reads a value to the end of its line. -/
def read? (value : List Char → List Char) (r : Reading) : List Char → Option Reading
  | [] => some r
  | c :: rest =>
    if r.ended then
      if c = ' ' || c = '\t' then read? value r rest else if c = '#' then some r else none
    else if r.escaped then do
      let c ← escapeOf? c
      read? value { r.push c with escaped := false } rest
    else if r.strong then
      read? value (if c = '\'' then { r with strong := false } else r.push c) rest
    else if r.reference ≠ .none then read? value (r.extend value c) rest
    else read? value (r.takeOpen c) rest

/-- The text of a value, unless a quote or a brace is still open. -/
def finish? (value : List Char → List Char) (r : Reading) : Option (List Char) :=
  if r.strong || r.weak then none
  else match r.reference with
    | .none => some r.text
    | .named name => some (r.refer value name).text
    | .braced _ => none

end Reading

/-- The value that the rest of a line writes. -/
def value? (set assigned : Variables) (text : List Char) : Option (List Char) :=
  let value := valueOf set assigned
  (Reading.read? value {} text).bind (Reading.finish? value)

/-! ## Assignments -/

/-- The name of a variable, and what follows it. -/
def name? : List Char → Option (List Char × List Char)
  | [] => none
  | c :: rest =>
    let isPart (c : Char) : Bool := c.isAlphanum || c = '_' || c = '.'
    if c.isAlpha || c = '_' then some (c :: rest.takeWhile isPart, rest.dropWhile isPart) else none

/-- What follows an equals sign. -/
def afterEquals? : List Char → Option (List Char)
  | '=' :: rest => some rest
  | _ => none

/-- The word that may stand in front of an assignment; it can be a name as well. -/
def exportWord : List Char := ['e', 'x', 'p', 'o', 'r', 't']

/-- The name that a line assigns to, and what follows the equals sign. -/
def target? (line : List Char) : Option (List Char × List Char) := do
  let (name, rest) ← name? line
  let rest := Text.trimStart rest
  match afterEquals? rest with
  | some rest => return (name, rest)
  | none =>
    guard (name = exportWord)
    let (name, rest) ← name? rest
    let rest ← afterEquals? (Text.trimStart rest)
    return (name, rest)

/-- What a line assigns; `some none` if it is blank or a comment. -/
def assignment? (set assigned : Variables) (line : List Char) :
    Option (Option (String × String)) :=
  let line := Text.trimStart (Text.trimEnd line)
  if line.isEmpty || line.head? = some '#' then some none
  else do
    let (name, rest) ← target? line
    let rest := Text.trimStart rest
    if rest.isEmpty || rest.head? = some '#' then return some (String.ofList name, "")
    let value ← value? set assigned rest
    return some (String.ofList name, String.ofList value)

/-- Completes the variables that are set by those that lines assign, up to the first line with a
    fault. -/
def apply (set assigned : Variables) : List (Option (List Char)) → Variables
  | [] | none :: _ => set
  | some line :: lines =>
    match assignment? set assigned line with
    | none => set
    | some none => apply set assigned lines
    | some (some (name, value)) =>
      let set := if (set.lookup name).isSome then set else set ++ [(name, value)]
      apply set ((name, value) :: assigned) lines

/-- Completes the variables that are set by those that a file assigns. A byte order mark may stand
    in front. -/
def complete (set : Variables) (text : String) : Variables :=
  let text := match text.toList with
    | '\ufeff' :: rest => rest
    | text => text
  apply set [] (joinLines [] .none (cutLines text))

end Latchkey.Assignments

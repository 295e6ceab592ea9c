import Latchkey.Toml.Scalar
import Latchkey.Toml.Table

set_option autoImplicit false

/-! # Reading TOML

A document is a list of lines: headers open tables, and keys put values into the table that was
opened last. Whatever breaks a rule spoils the document as a whole. -/

namespace Latchkey.Toml

/-! ## Between the tokens -/

/-- Drops blanks. -/
def skipBlanks (text : List Char) : List Char :=
  text.dropWhile isBlank

/-- Drops blanks, line ends and comments. A control character in a comment ends it, and fits nowhere
    else. -/
def skipLines (inComment : Bool) : List Char → List Char
  | [] => []
  | c :: rest =>
    if c = '\n' then skipLines false rest
    else if inComment then if c = '\t' || ' ' ≤ c then skipLines true rest else c :: rest
    else if isBlank c then skipLines false rest
    else if c = '#' then skipLines true rest
    else c :: rest

/-- The text after the end of a line that holds no more than blanks and a comment. -/
def lineEnd? (text : List Char) : Option (List Char) :=
  let text := match skipBlanks text with
    | '#' :: rest => rest.dropWhile fun c => c = '\t' || ' ' ≤ c
    | rest => rest
  match text with
  | [] => some []
  | '\n' :: rest => some rest
  | _ :: _ => none

/-! ## Keys -/

/-- A name: a word without quotes, or a string on one line. -/
def name? (text : List Char) : Option (String × List Char) :=
  let found := match text with
    | '"' :: '"' :: '"' :: _ | '\'' :: '\'' :: '\'' :: _ => none
    | '"' :: _ | '\'' :: _ => lineString? text
    | _ => word? text
  found.map fun (name, rest) => (String.ofList name, rest)

/-- A key: names with dots between them. Each name has a character at least, so the length of the
    text is fuel enough. -/
def key? : Nat → List Char → Option (List String × List Char)
  | 0, _ => none
  | fuel + 1, text => do
    let (name, rest) ← name? text
    match skipBlanks rest with
    | '.' :: rest =>
      let (more, rest) ← key? fuel (skipBlanks rest)
      return (name :: more, rest)
    | rest => return ([name], rest)

/-! ## Values -/

mutual

/-- The value at the head of a text. Every value has a character at least, so the length of the text
    is fuel enough. -/
def value? : Nat → List Char → Option (Raw × List Char)
  | 0, _ => none
  | fuel + 1, text =>
    match text with
    | '[' :: rest => (elements? fuel (skipLines false rest)).map fun (l, rest) => (.list l, rest)
    | '{' :: rest =>
      match skipBlanks rest with
      | '}' :: rest => some (.table [], rest)
      | rest => (pairs? fuel [] rest).map fun (t, rest) => (.table (Item.fieldsOf t), rest)
    | '"' :: _ | '\'' :: _ => (string? text).map fun (s, rest) => (.text (String.ofList s), rest)
    | '+' :: rest => do
      let (word, rest) ← word? rest
      number? word rest
    | _ => do
      let (word, rest) ← word? text
      if word = "true".toList then return (.bool true, rest)
      if word = "false".toList then return (.bool false, rest)
      let isNumeric := word = "inf".toList || word = "nan".toList
        || word.head?.any fun c => c = '-' || c.isDigit
      if isNumeric then numeric? word rest else none

/-- The values up to a closing bracket. A comma may follow the last one. -/
def elements? : Nat → List Char → Option (List Raw × List Char)
  | 0, _ => none
  | _ + 1, ']' :: rest => some ([], rest)
  | fuel + 1, text => do
    let (first, rest) ← value? fuel text
    match skipLines false rest with
    | ',' :: rest =>
      let (more, rest) ← elements? fuel (skipLines false rest)
      return (first :: more, rest)
    | ']' :: rest => return ([first], rest)
    | _ => none

/-- The fields up to a closing brace, added to those before. No comma follows the last one, and all
    stand on one line. -/
def pairs? : Nat → Entries → List Char → Option (Entries × List Char)
  | 0, _, _ => none
  | fuel + 1, entries, text => do
    let (key, rest) ← key? text.length text
    match rest with
    | '=' :: rest =>
      let (value, rest) ← value? fuel (skipBlanks rest)
      let entries ← entries.insert? value key
      match skipBlanks rest with
      | '}' :: rest => return (entries, rest)
      | ',' :: rest => pairs? fuel entries (skipBlanks rest)
      | _ => none
    | _ => none

end

/-! ## Documents -/

/-- Line ends as line feeds alone. -/
def foldLineEnds : List Char → List Char
  | [] => []
  | '\r' :: '\n' :: rest => '\n' :: foldLineEnds rest
  | c :: rest => c :: foldLineEnds rest

/-- A line with a header, behind its first bracket: the table that it opens, and what follows. -/
def header? (entries : Entries) (text : List Char) :
    Option (List String × Entries × List Char) := do
  let (isElement, text) := match text with
    | '[' :: rest => (true, rest)
    | rest => (false, rest)
  let (path, rest) ← key? (text.length + 1) (skipBlanks text)
  let entries ← if isElement then entries.openElement? path else entries.openTable? path
  match isElement, rest with
  | false, ']' :: rest | true, ']' :: ']' :: rest => return (path, entries, ← lineEnd? rest)
  | _, _ => none

/-- A line with a key and its value in the table at a path, and what follows. -/
def field? (path : List String) (entries : Entries) (text : List Char) :
    Option (Entries × List Char) := do
  let (key, rest) ← key? (text.length + 1) text
  match rest with
  | '=' :: rest =>
    let rest := skipBlanks rest
    let (value, rest) ← value? (rest.length + 1) rest
    let entries ← Entries.within? (Entries.insert? value key) path entries
    return (entries, ← lineEnd? rest)
  | _ => none

/-- The lines of a document, for the table at a path. Every line has a character at least, so the
    length of the text is fuel enough. -/
def lines? : Nat → List String → Entries → List Char → Option Entries
  | 0, _, _, _ => none
  | fuel + 1, path, entries, text =>
    match skipLines false text with
    | [] => some entries
    | '[' :: rest => do
      let (path, entries, rest) ← header? entries rest
      lines? fuel path entries rest
    | rest => do
      let (entries, rest) ← field? path entries rest
      lines? fuel path entries rest

/-- The fields of a document. A byte order mark may stand in front. -/
def parse? (text : String) : Option Raw.Fields :=
  let text := match foldLineEnds text.toList with
    | '\ufeff' :: rest => rest
    | rest => rest
  (lines? (text.length + 1) [] [] text).map Item.fieldsOf

end Latchkey.Toml

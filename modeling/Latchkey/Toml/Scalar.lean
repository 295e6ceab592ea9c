import Latchkey.Settings.Raw
import Latchkey.Text.Padded

set_option autoImplicit false

/-! # TOML scalars

Strings, numbers and date-times at the head of a text in which every line ends in a line feed alone.
Each reader answers what it read and what follows. A date-time becomes its text in normal form. -/

namespace Latchkey.Toml

/-- A blank within a line. -/
def isBlank (c : Char) : Bool :=
  c = ' ' || c = '\t'

/-- A character of a word without quotes. -/
def isBare (c : Char) : Bool :=
  c.isAlphanum || c = '-' || c = '_'

/-- The word without quotes at the head of a text. -/
def word? (text : List Char) : Option (List Char × List Char) :=
  let word := text.takeWhile isBare
  if word.isEmpty then none else some (word, text.dropWhile isBare)

/-! ## Strings -/

/-- Whether a character may stand in a string as it is. -/
def isPlain (c : Char) : Bool :=
  c = '\t' || (' ' ≤ c && c ≠ '\x7f')

/-- A string in single quotes, behind the opening one. -/
def literal? : List Char → Option (List Char × List Char)
  | [] => none
  | '\'' :: rest => some ([], rest)
  | c :: rest =>
    if isPlain c then (literal? rest).map fun (more, rest) => (c :: more, rest) else none

/-- A string in triple single quotes, behind the opening ones. Up to two quotes can stand in front
    of the closing ones. -/
def longLiteral? : List Char → Option (List Char × List Char)
  | [] => none
  | '\'' :: '\'' :: '\'' :: '\'' :: '\'' :: rest => some (['\'', '\''], rest)
  | '\'' :: '\'' :: '\'' :: '\'' :: rest => some (['\''], rest)
  | '\'' :: '\'' :: '\'' :: rest => some ([], rest)
  | c :: rest =>
    if isPlain c || c = '\n' then
      (longLiteral? rest).map fun (more, rest) => (c :: more, rest)
    else none

/-- The value of a hexadecimal digit. -/
def hexValue? (c : Char) : Option Nat :=
  if c.isDigit then some (c.toNat - '0'.toNat)
  else if 'a' ≤ c && c ≤ 'f' then some (c.toNat - 'a'.toNat + 10)
  else if 'A' ≤ c && c ≤ 'F' then some (c.toNat - 'A'.toNat + 10)
  else none

/-- The character whose code point a row of hexadecimal digits writes. -/
def codePoint? (digits : List Char) : Option Char := do
  let values ← digits.mapM hexValue?
  let n := values.foldl (fun n d => 16 * n + d) 0
  if n.isValidChar then some (Char.ofNat n) else none

/-- The character that an escape stands for, behind the backslash. -/
def escape? : List Char → Option (Char × List Char)
  | '"' :: rest => some ('"', rest)
  | '\\' :: rest => some ('\\', rest)
  | 'b' :: rest => some ('\x08', rest)
  | 'f' :: rest => some ('\x0c', rest)
  | 'n' :: rest => some ('\n', rest)
  | 'r' :: rest => some ('\r', rest)
  | 't' :: rest => some ('\t', rest)
  | 'u' :: rest =>
    if rest.length < 4 then none else (codePoint? (rest.take 4)).map fun c => (c, rest.drop 4)
  | 'U' :: rest =>
    if rest.length < 8 then none else (codePoint? (rest.take 8)).map fun c => (c, rest.drop 8)
  | _ => none

/-- A string in double quotes, behind the opening one. Every step takes a character at least, so the
    length of the text is fuel enough. -/
def basic? : Nat → List Char → Option (List Char × List Char)
  | 0, _ | _, [] => none
  | _ + 1, '"' :: rest => some ([], rest)
  | fuel + 1, '\\' :: rest => do
    let (c, rest) ← escape? rest
    let (more, rest) ← basic? fuel rest
    return (c :: more, rest)
  | fuel + 1, c :: rest =>
    if isPlain c then (basic? fuel rest).map fun (more, rest) => (c :: more, rest) else none

/-- What follows a backslash that joins lines: the rest of its line has to be blank, and the blanks
    and line ends after it are passed over. -/
def joined? (text : List Char) : Option (List Char) :=
  match text.dropWhile isBlank with
  | [] => some []
  | '\n' :: rest => some (rest.dropWhile fun c => isBlank c || c = '\n')
  | _ :: _ => none

/-- A string in triple double quotes, behind the opening ones. -/
def longBasic? : Nat → List Char → Option (List Char × List Char)
  | 0, _ | _, [] => none
  | _ + 1, '"' :: '"' :: '"' :: '"' :: '"' :: rest => some (['"', '"'], rest)
  | _ + 1, '"' :: '"' :: '"' :: '"' :: rest => some (['"'], rest)
  | _ + 1, '"' :: '"' :: '"' :: rest => some ([], rest)
  | fuel + 1, '\\' :: rest =>
    match rest.head? with
    | none => none
    | some c =>
      if isBlank c || c = '\n' then (joined? rest).bind (longBasic? fuel)
      else do
        let (c, rest) ← escape? rest
        let (more, rest) ← longBasic? fuel rest
        return (c :: more, rest)
  | fuel + 1, c :: rest =>
    if isPlain c || c = '\n' then (longBasic? fuel rest).map fun (more, rest) => (c :: more, rest)
    else none

/-- A line end right behind the opening quotes does not count. -/
def dropFirstLineEnd : List Char → List Char
  | '\n' :: rest => rest
  | text => text

/-- A string on one line. -/
def lineString? : List Char → Option (List Char × List Char)
  | '"' :: rest => basic? rest.length rest
  | '\'' :: rest => literal? rest
  | _ => none

/-- A string of any kind. -/
def string? : List Char → Option (List Char × List Char)
  | '"' :: '"' :: '"' :: rest => longBasic? rest.length (dropFirstLineEnd rest)
  | '\'' :: '\'' :: '\'' :: rest => longLiteral? (dropFirstLineEnd rest)
  | text => lineString? text

/-! ## Numbers -/

/-- The value of a digit in a radix. -/
def digitOf? (radix : Nat) (c : Char) : Option Nat :=
  (hexValue? c).filter (· < radix)

/-- Whether underscores stand only between digits. -/
def separated : List Char → Bool
  | [] => false
  | ['_'] => false
  | '_' :: '_' :: _ => false
  | [_] => true
  | _ :: rest => separated rest

/-- The digits at the head of a text, single underscores between them left out, and what follows.
    They may begin with a zero if there is no other digit, or if zeros are allowed. -/
def digits? (radix : Nat) (zeros : Bool) (text : List Char) : Option (List Char × List Char) :=
  let isPart (c : Char) : Bool := (digitOf? radix c).isSome || c = '_'
  let run := text.takeWhile isPart
  if run.head? = some '_' || !separated run then none
  else if !zeros && run.head? = some '0' && 1 < run.length then none
  else some (run.filter (· ≠ '_'), text.dropWhile isPart)

/-- The number that digits write in a radix. -/
def numberOf (radix : Nat) (digits : List Char) : Nat :=
  digits.foldl (fun n c => radix * n + (digitOf? radix c).getD 0) 0

/-- Whether a minus stands in front, and what follows it. -/
def takeMinus : List Char → Bool × List Char
  | '-' :: rest => (true, rest)
  | text => (false, text)

/-- What follows a plus, which may be absent. -/
def dropPlus : List Char → List Char
  | '+' :: rest => rest
  | text => text

/-- An integer that makes up a whole word. -/
def integer? (radix : Nat) (word : List Char) : Option Int := do
  let (negative, rest) := if radix = 10 then takeMinus word else (false, word)
  let (digits, rest) ← digits? radix (radix ≠ 10) rest
  guard rest.isEmpty
  let n := numberOf radix digits
  let n : Int := if negative then -n else n
  guard (Numeral.fitsSigned n)
  return n

/-- The exponent of a number: what is left of its word, and, where that ends in the letter, what
    follows the word. -/
def exponent? (left rest : List Char) : Option (Int × List Char) :=
  match left with
  | [] => some (0, rest)
  | c :: left => do
    guard (c = 'e' || c = 'E')
    let (negative, left, rest) ← if left.isEmpty then
        (word? (dropPlus rest)).map fun (word, rest) => (false, word, rest)
      else some ((takeMinus left).1, (takeMinus left).2, rest)
    let (digits, surplus) ← digits? 10 true left
    guard surplus.isEmpty
    let n : Int := numberOf 10 digits
    return (if negative then -n else n, rest)

/-- A number with a fraction or an exponent, from the word in front of the point and, if there is
    one, the word behind it. It has to be finite. -/
def float? (word : List Char) (after : Option (List Char)) (rest : List Char) :
    Option (Binary64 × List Char) := do
  let (negative, text) := takeMinus word
  let (whole, left) ← digits? 10 false text
  let (fraction, left) ← match after with
    | some after => if left.isEmpty then digits? 10 true after else none
    | none => some ([], left)
  let (e, rest) ← exponent? left rest
  match Numeral.nearest negative (whole ++ fraction) (e - fraction.length) with
  | .finite s m e => some (.finite s m e, rest)
  | _ => none

/-- A number that begins with a word, given what follows the word. -/
def number? (word rest : List Char) : Option (Raw × List Char) :=
  let whole (radix : Nat) (word : List Char) : Option (Raw × List Char) :=
    (integer? radix word).map fun n => (.integer n, rest)
  match word with
  | '0' :: 'x' :: digits => whole 16 digits
  | '0' :: 'o' :: digits => whole 8 digits
  | '0' :: 'b' :: digits => whole 2 digits
  | word =>
    if word.contains 'e' || word.contains 'E' then
      (float? word none rest).map fun (x, rest) => (.float x, rest)
    else match rest with
      | '.' :: rest => do
        let (after, rest) ← word? rest
        let (x, rest) ← float? word (some after) rest
        return (.float x, rest)
      | _ =>
        let (negative, name) := takeMinus word
        if name = ['i', 'n', 'f'] then some (.float (.infinite negative), rest)
        else if name = ['n', 'a', 'n'] then some (.float .undefined, rest)
        else whole 10 word

/-! ## Date-times -/

/-- Two digits at the head of a text. -/
def twoDigits? : List Char → Option (Nat × List Char)
  | a :: b :: rest =>
    if a.isDigit && b.isDigit then some (Numeral.ofDigits [a, b], rest) else none
  | _ => none

/-- What follows a character that has to be there. -/
def after? (c : Char) : List Char → Option (List Char)
  | d :: rest => if d = c then some rest else none
  | [] => none

/-- A date in normal form. -/
def date? (text : List Char) : Option (String × List Char) := do
  let (century, rest) ← twoDigits? text
  let (year, rest) ← twoDigits? rest
  let (month, rest) ← twoDigits? (← after? '-' rest)
  let (day, rest) ← twoDigits? (← after? '-' rest)
  guard (1 ≤ month && month ≤ 12 && 1 ≤ day && day ≤ 31)
  return (Text.padded 2 century ++ Text.padded 2 year ++ "-" ++ Text.padded 2 month ++ "-"
    ++ Text.padded 2 day, rest)

/-- The fraction of a second in normal form: nine places at most, and no zeros at the end. -/
def secondFraction (digits : List Char) : String :=
  let places := ((digits.take 9).reverse.dropWhile (· = '0')).reverse
  if places.isEmpty then "" else String.ofList ('.' :: places)

/-- A time of day in normal form. -/
def timeOfDay? (text : List Char) : Option (String × List Char) := do
  let (hour, rest) ← twoDigits? text
  let (minute, rest) ← twoDigits? (← after? ':' rest)
  let (second, rest) ← twoDigits? (← after? ':' rest)
  let (fraction, rest) ← match rest with
    | '.' :: rest =>
      let (digits, rest) := Numeral.takeDigits rest
      if digits.isEmpty then none else some (secondFraction digits, rest)
    | rest => some ("", rest)
  guard (hour ≤ 24 && minute ≤ 59 && second ≤ 59)
  return (Text.padded 2 hour ++ ":" ++ Text.padded 2 minute ++ ":" ++ Text.padded 2 second
    ++ fraction, rest)

/-- The distance from universal time that makes up a whole text, in normal form. -/
def offset? : List Char → Option String
  | [] => some ""
  | ['Z'] | ['z'] => some "Z"
  | sign :: rest => do
    guard (sign = '+' || sign = '-')
    let (hours, rest) ← twoDigits? rest
    let (minutes, rest) ← twoDigits? (← after? ':' rest)
    guard rest.isEmpty
    let sign := if sign = '-' && hours ≠ 0 then "-" else "+"
    return sign ++ Text.padded 2 hours ++ ":" ++ Text.padded 2 minutes

/-- The normal form of a date-time that makes up a whole text: a date, a time of day, or both, and
    then perhaps a distance from universal time. -/
def dateTime? (text : List Char) : Option String :=
  if text[2]? = some ':' then do
    let (time, rest) ← timeOfDay? text
    guard rest.isEmpty
    return time
  else do
    let (date, rest) ← date? text
    match rest with
    | [] => return date
    | c :: rest =>
      guard (c = 'T' || c = 't' || c = ' ')
      let (time, rest) ← timeOfDay? rest
      let offset ← offset? rest
      return date ++ "T" ++ time ++ offset

/-- A word behind a character, both of which may be absent. -/
def optionalPart? (c : Char) (text : List Char) : Option (List Char × List Char) :=
  match after? c text with
  | some rest => (word? rest).map fun (word, rest) => (c :: word, rest)
  | none => some ([], text)

/-- The extent of a date-time that begins with a word. A single blank may stand in front of the
    time. -/
def dateTimeExtent? (word rest : List Char) : Option (List Char × List Char) := do
  let (hour, rest) := match rest with
    | ' ' :: more => ((word? more).map fun (w, r) => (' ' :: w, r)).getD ([], rest)
    | _ => ([], rest)
  match after? ':' rest with
  | none => return (word ++ hour, rest)
  | some rest =>
    let (minute, rest) ← word? rest
    let (second, rest) ← word? (← after? ':' rest)
    let (fraction, rest) ← optionalPart? '.' rest
    let (ahead, rest) ← optionalPart? '+' rest
    let (more, rest) ← optionalPart? ':' rest
    return (word ++ hour ++ ':' :: minute ++ ':' :: second ++ fraction ++ ahead ++ more, rest)

/-- Whether a word with what follows it is a date-time rather than a number. -/
def isDateTime (word rest : List Char) : Bool :=
  let hasExponent := word.zip word.tail |>.any fun (a, b) => (a = 'e' || a = 'E') && b = '-'
  word.contains 'T' || word.contains 't' || (word.tail.contains '-' && !hasExponent)
    || rest.head? = some ':'

/-- A number or a date-time that begins with a word. -/
def numeric? (word rest : List Char) : Option (Raw × List Char) :=
  if isDateTime word rest then do
    let (text, rest) ← dateTimeExtent? word rest
    let time ← dateTime? text
    return (.text time, rest)
  else number? word rest

end Latchkey.Toml

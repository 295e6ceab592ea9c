import Latchkey.Text.Padded
import Latchkey.Time.Instant

set_option autoImplicit false

/-! # Instants as text

Instants are written in UTC, as `2027-01-15T08:00:05.25Z`: a year outside 0 to 9999 carries a sign,
and the fraction has no digits, three, six or nine. Reading is lenient: numbers may be short and
have blanks in front, the date and time may be separated by a blank, and any offset is accepted.
A leap second is kept as more than 999999999 nanoseconds of the second before it. -/

namespace Latchkey.Instant

/-! ## Writing -/

/-- A year with at least four digits, signed if it has more or is negative. -/
def yearText (year : Int) : String :=
  if 0 ≤ year ∧ year ≤ 9999 then Text.padded 4 year.toNat
  else if year < 0 then "-" ++ Text.padded 4 year.natAbs
  else "+" ++ Text.padded 4 year.natAbs

/-- A date as year, month and day. -/
def dateText (date : Date) : String :=
  let (year, month, day) := date.civil
  yearText year ++ "-" ++ Text.padded 2 month ++ "-" ++ Text.padded 2 day

/-- The fraction of a second with its point, in the fewest groups of three digits. -/
def fractionText (nanos : Nat) : String :=
  if nanos = 0 then ""
  else if nanos % 1000000 = 0 then "." ++ Text.padded 3 (nanos / 1000000)
  else if nanos % 1000 = 0 then "." ++ Text.padded 6 (nanos / 1000)
  else "." ++ Text.padded 9 nanos

/-- The time of day with its fraction. A leap second is second 60. -/
def timeText (i : Instant) : String :=
  let s := i.secondOfDay
  let leap := i.nanos / nanosPerSecond
  Text.padded 2 (s / 3600) ++ ":" ++ Text.padded 2 (s / 60 % 60) ++ ":"
    ++ Text.padded 2 (s % 60 + leap) ++ fractionText (i.nanos % nanosPerSecond)

/-- The text of an instant in records. -/
def toText (i : Instant) : String :=
  dateText i.date ++ "T" ++ i.timeText ++ "Z"

/-- The text of an instant in messages. -/
def toMessageText (i : Instant) : String :=
  dateText i.date ++ " " ++ i.timeText ++ " UTC"

/-! ## Reading -/

/-- White space, as between words of any script. -/
def isBlank (c : Char) : Bool :=
  let n := c.toNat
  n = 32 || (9 ≤ n && n ≤ 13) || n = 0x85 || n = 0xa0 || n = 0x1680 || (0x2000 ≤ n && n ≤ 0x200a)
    || n = 0x2028 || n = 0x2029 || n = 0x202f || n = 0x205f || n = 0x3000

/-- Drops white space. -/
def skipBlanks (text : List Char) : List Char :=
  text.dropWhile isBlank

/-- The number that decimal digits write. -/
def numberOf (digits : List Char) : Nat :=
  digits.foldl (fun n c => 10 * n + (c.toNat - 48)) 0

/-- A number of one to `width` digits at the head of the text. -/
def number? (width : Nat) (text : List Char) : Option (Nat × List Char) :=
  let digits := (text.take width).takeWhile Char.isDigit
  if digits.isEmpty then none else some (numberOf digits, text.drop digits.length)

/-- A number after optional white space. -/
def field? (width : Nat) (text : List Char) : Option (Nat × List Char) :=
  number? width (skipBlanks text)

/-- A year: up to four digits, or a sign and any number of digits. -/
def year? (text : List Char) : Option (Int × List Char) :=
  match skipBlanks text with
  | '-' :: rest => (number? rest.length rest).map fun (n, rest) => (-(n : Int), rest)
  | '+' :: rest => (number? rest.length rest).map fun (n, rest) => ((n : Int), rest)
  | text => (number? 4 text).map fun (n, rest) => ((n : Int), rest)

/-- Drops white space and then the expected character. -/
def mark? (c : Char) (text : List Char) : Option (List Char) :=
  match skipBlanks text with
  | d :: rest => if d = c then some rest else none
  | [] => none

/-- An optional fraction in nanoseconds; digits beyond the ninth are dropped. -/
def fraction? : List Char → Option (Nat × List Char)
  | '.' :: rest =>
    let digits := rest.takeWhile Char.isDigit
    if digits.isEmpty then none
    else
      let kept := digits.take 9
      some (numberOf kept * Nat.pow 10 (9 - kept.length), rest.drop digits.length)
  | text => some (0, text)

/-- Two digits at the head of the text. -/
def twoDigits? : List Char → Option (Nat × List Char)
  | a :: b :: rest => if a.isDigit && b.isDigit then some (numberOf [a, b], rest) else none
  | _ => none

/-- A signed offset in seconds: hours and minutes, with any colons and blanks between them. -/
def signedOffset? (text : List Char) : Option (Int × List Char) := do
  let (sign, rest) ← match text with
    | '+' :: rest => some ((1 : Int), rest)
    | '-' :: rest => some (-1, rest)
    | '\u2212' :: rest => some (-1, rest)
    | _ => none
  let (hours, rest) ← twoDigits? rest
  let (minutes, rest) ← twoDigits? (rest.dropWhile fun c => c = ':' || isBlank c)
  if minutes < 60 then some (sign * (3600 * hours + 60 * minutes), rest) else none

/-- An offset: `UTC` or `Z` in either case, or a signed one. -/
def offset? (text : List Char) : Option (Int × List Char) :=
  match text with
  | c :: rest =>
    if (text.take 3).map Char.toLower = ['u', 't', 'c'] then some (0, text.drop 3)
    else if c = 'Z' || c = 'z' then some (0, rest)
    else signedOffset? text
  | [] => none

/-- The first year that can be written. -/
def firstYear : Int := -262143

/-- The last year that can be written. -/
def lastYear : Int := 262142

/-- Reads an instant. -/
def parse? (text : String) : Option Instant := do
  let (year, rest) ← year? text.toList
  let (month, rest) ← field? 2 (← mark? '-' rest)
  let (day, rest) ← field? 2 (← mark? '-' rest)
  let rest ← match rest with
    | 't' :: rest => some rest
    | 'T' :: rest => some rest
    | ' ' :: rest => some rest
    | _ => none
  let (hour, rest) ← field? 2 rest
  let (minute, rest) ← field? 2 (← mark? ':' rest)
  let (second, rest) ← field? 2 (← mark? ':' rest)
  let (nanos, rest) ← fraction? rest
  let (offset, rest) ← offset? (skipBlanks rest)
  guard (skipBlanks rest).isEmpty
  guard (firstYear ≤ year ∧ year ≤ lastYear)
  let date ← Date.ofCivil? year month day
  guard (hour < 24 ∧ minute < 60 ∧ second ≤ 60)
  guard (offset.natAbs < Span.secondsPerDay)
  let leap := second / 60
  let timeOfDay := 3600 * hour + 60 * minute + (second - leap)
  let seconds := date.day * Span.secondsPerDay + timeOfDay - offset
  guard (inRange seconds)
  return ⟨seconds, nanos + nanosPerSecond * leap⟩

end Latchkey.Instant

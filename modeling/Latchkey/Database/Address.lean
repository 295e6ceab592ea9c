import Latchkey.Bytes.Utf8
import Latchkey.Text.Quoted

set_option autoImplicit false

/-! # Addresses of databases

An address is a URL: a scheme, who logs in, the host, and options of the connection. Reading one
finds out whether it can be used, and if not, what is the first thing wrong with it. -/

namespace Latchkey.Database

/-- What is wrong with an address. -/
inductive AddressFault
  | noScheme
  | emptyHost
  | badPort
  | badHostCharacter
  | badHostNumber
  /-- A name or password is not text. -/
  | badText (fault : Bytes.Utf8Fault)
  /-- The option on encryption has an unknown value. -/
  | unknownMode (text : String)
  /-- The number of statements to keep has no digits, others than digits, or too many. -/
  | emptyCapacity
  | badCapacity
  | largeCapacity
deriving DecidableEq, Repr

/-- The wording of a cause. -/
def AddressFault.cause : AddressFault → String
  | .noScheme => "relative URL without a base"
  | .emptyHost => "empty host"
  | .badPort => "invalid port number"
  | .badHostCharacter => "invalid domain character"
  | .badHostNumber => "invalid IPv6 address"
  | .badText fault => fault.message
  | .unknownMode text =>
    "error with configuration: unknown value " ++ Text.quoted text ++ " for \x60ssl_mode\x60"
  | .emptyCapacity => "cannot parse integer from empty string"
  | .badCapacity => "invalid digit found in string"
  | .largeCapacity => "number too large to fit in target type"

/-- The wording of a fault. -/
def AddressFault.message (fault : AddressFault) : String :=
  "error with configuration: " ++ fault.cause

namespace Address

/-! ## Pieces -/

/-- Removes what is left out of an address: blanks and controls at its ends, and tabs and line
    breaks everywhere. -/
def strip (text : List Char) : List Char :=
  let trim (l : List Char) : List Char := l.dropWhile fun c => c ≤ ' '
  (trim (trim text).reverse).reverse.filter fun c => c != '\t' && c != '\n' && c != '\r'

/-- The scheme, in lower case, and what comes after its colon. -/
def scheme? (text : List Char) : Option (String × List Char) :=
  let word := text.takeWhile fun c => c.isAlphanum || c = '+' || c = '-' || c = '.'
  match word, text.drop word.length with
  | first :: _, ':' :: rest =>
    if first.isAlpha then some ((String.ofList word).toLower, rest) else none
  | _, _ => none

/-- Whether addresses of a scheme always have a host, which may come after any number of slashes. -/
def needsHost (scheme : String) : Bool :=
  ["http", "https", "ws", "wss", "ftp"].contains scheme

/-- Whether a character ends the part of the address that names the host. -/
def endsAuthority (needsHost : Bool) (c : Char) : Bool :=
  c = '/' || c = '?' || c = '#' || (needsHost && c = '\\')

/-- The part that names the host, and what comes after it. -/
def authority? (scheme : String) (rest : List Char) : Option (List Char × List Char) :=
  let needed := needsHost scheme
  let start? :=
    if needed then some (rest.dropWhile fun c => c = '/' || c = '\\')
    else
      match scheme, rest with
      | "file", _ => none
      | _, '/' :: '/' :: rest => some rest
      | _, _ => none
  start?.map fun start => start.span fun c => !endsAuthority needed c

/-- Splits after the last occurrence of a character, which is left out. -/
def splitLast? (separator : Char) (text : List Char) : Option (List Char × List Char) :=
  if text.contains separator then
    let back := text.reverse
    some ((back.drop ((back.takeWhile (· ≠ separator)).length + 1)).reverse,
      (back.takeWhile (· ≠ separator)).reverse)
  else none

/-- Splits at the first occurrence of a character, which is left out. -/
def splitFirst (separator : Char) (text : List Char) : List Char × List Char :=
  (text.takeWhile (· ≠ separator), (text.dropWhile (· ≠ separator)).drop 1)

/-! ## Hosts -/

/-- Whether four decimal numbers below 256, without leading zeros, stand between points. -/
def isDottedNumber (text : String) : Bool :=
  let parts := text.splitOn "."
  parts.length = 4 && parts.all fun part =>
    !part.isEmpty && part.toList.all Char.isDigit && (part = "0" || !part.startsWith "0")
      && part.length ≤ 3 && part.toNat?.getD 256 ≤ 255

/-- Whether a text is a group of up to four hexadecimal digits. -/
def isGroup (text : String) : Bool :=
  !text.isEmpty && text.length ≤ 4
    && text.toList.all fun c => c.isDigit || ('a' ≤ c && c ≤ 'f') || ('A' ≤ c && c ≤ 'F')

/-- The number of groups between single colons; the last of all may be a dotted number, which counts
    twice. -/
def groups? (isLast : Bool) (text : String) : Option Nat :=
  let parts := text.splitOn ":"
  if text.isEmpty then some 0
  else if parts.all isGroup then some parts.length
  else if isLast && parts.dropLast.all isGroup && isDottedNumber (parts.getLastD "") then
    some (parts.length + 1)
  else none

/-- Whether a text is a host number of eight groups, some of which two colons may stand for. -/
def isHostNumber (text : String) : Bool :=
  match text.splitOn "::" with
  | [all] => groups? true all = some 8
  | left :: right =>
    match groups? false left, groups? true ("::".intercalate right) with
    | some l, some r => l + r ≤ 7
    | _, _ => false
  | [] => false

/-- Checks a host. -/
def checkHost (host : List Char) : Except AddressFault Unit :=
  match host with
  | '[' :: inner =>
    if inner.getLast? = some ']' then
      if isHostNumber (String.ofList inner.dropLast) then .ok () else .error .badHostNumber
    else .error .badHostNumber
  | _ =>
    if host.any "\x00 #/:<>?@[\\]^|".toList.contains then .error .badHostCharacter else .ok ()

/-- The host at the front, up to a colon outside square brackets, and what comes after it. -/
def splitHost (inBrackets : Bool) : List Char → List Char × List Char
  | [] => ([], [])
  | c :: rest =>
    if c = ':' ∧ inBrackets = false then ([], c :: rest)
    else
      let inBrackets := if c = '[' then true else if c = ']' then false else inBrackets
      let (host, after) := splitHost inBrackets rest
      (c :: host, after)

/-- Checks a port. -/
def checkPort (text : List Char) : Except AddressFault Unit :=
  if text.all Char.isDigit ∧ text.foldl (fun n c => 10 * n + (c.toNat - '0'.toNat)) 0 < 65536 then
    .ok ()
  else .error .badPort

/-- Checks the part that names the host, and gives the name and password in it. `isFollowed` says
    whether anything comes after it. -/
def checkAuthority (needed isFollowed : Bool) (text : List Char) :
    Except AddressFault (List Char × List Char) := do
  let (user, place) := (splitLast? '@' text).getD ([], text)
  if user.isEmpty ∧ place.isEmpty ∧ text ≠ [] ∧ isFollowed then throw .emptyHost
  let (name, password) := splitFirst ':' user
  let (host, port) := splitHost false place
  checkHost host
  if host.isEmpty ∧ (needed ∨ !port.isEmpty) then throw .emptyHost
  checkPort ((port.drop 1).takeWhile (· ≠ '\\'))
  if host.isEmpty ∧ !(name.isEmpty && password.isEmpty) then throw .emptyHost
  return (name, password)

/-! ## Options -/

/-- The value of a hexadecimal digit. -/
def hexValue? (c : Char) : Option Nat :=
  if c.isDigit then some (c.toNat - '0'.toNat)
  else if 'a' ≤ c ∧ c ≤ 'f' then some (c.toNat - 'a'.toNat + 10)
  else if 'A' ≤ c ∧ c ≤ 'F' then some (c.toNat - 'A'.toNat + 10)
  else none

/-- The bytes of a text in which a percent sign and two digits stand for a byte. -/
def unescape : List Char → Bytes
  | [] => []
  | '%' :: a :: b :: rest =>
    match hexValue? a, hexValue? b with
    | some high, some low => UInt8.ofNat (16 * high + low) :: unescape rest
    | _, _ => Bytes.ofText "%" ++ unescape (a :: b :: rest)
  | c :: rest => Bytes.ofText (String.singleton c) ++ unescape rest
termination_by text => text.length

/-- Checks that an escaped name or password is text. -/
def checkText (text : List Char) : Except AddressFault Unit :=
  match Bytes.utf8Fault? (unescape text) with
  | some fault => .error (.badText fault)
  | none => .ok ()

/-- The options of an address, as names and values. -/
def optionsOf (query : List Char) : List (String × String) :=
  let text (l : List Char) : String :=
    let bytes := unescape (l.map fun c => if c = '+' then ' ' else c)
    (Bytes.toText? bytes).getD (String.ofList l)
  (((String.ofList query).splitOn "&").filter fun part => !part.isEmpty).map fun part =>
    let (name, value) := splitFirst '=' part.toList
    (text name, text value)

/-- The words for how connections are encrypted. -/
def sslModes : List String :=
  ["disabled", "preferred", "required", "verify_ca", "verify_identity"]

/-- Checks an option. -/
def checkOption (name value : String) : Except AddressFault Unit :=
  if name = "ssl-mode" ∨ name = "sslmode" then
    if sslModes.contains value.toLower then
      .ok ()
    else .error (.unknownMode value)
  else if name = "statement-cache-capacity" then
    let digits := if value.startsWith "+" then value.toList.drop 1 else value.toList
    if value.isEmpty then .error .emptyCapacity
    else if digits.isEmpty ∨ digits.any (fun c => !c.isDigit) then .error .badCapacity
    else if digits.foldl (fun n c => 10 * n + (c.toNat - '0'.toNat)) 0 < Nat.pow 2 64 then .ok ()
    else .error .largeCapacity
  else .ok ()

/-! ## Addresses -/

/-- Checks an address. -/
def check (address : String) : Except AddressFault Unit := do
  let text := strip address.toList
  let some (scheme, rest) := scheme? text | throw .noScheme
  let (name, password, rest) ←
    match authority? scheme rest with
    | none => pure ([], [], rest)
    | some (host, rest) => do
      let (name, password) ← checkAuthority (needsHost scheme) (!rest.isEmpty) host
      pure (name, password, rest)
  checkText name
  checkText password
  let (beforeFragment, _) := splitFirst '#' rest
  let (_, query) := splitFirst '?' beforeFragment
  (optionsOf query).forM fun (name, value) => checkOption name value

end Address

end Latchkey.Database

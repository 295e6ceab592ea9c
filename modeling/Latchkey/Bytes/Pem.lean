import Latchkey.Bytes.Base64Url

set_option autoImplicit false

/-! # Armoured bytes

Bytes as lines of text between a first and a last line that name what they are. The body is base64
in its older alphabet, with `+` and `/` for the last two symbols and padding to whole groups, in
lines of 64 symbols. -/

namespace Latchkey.Pem

/-- Symbols in a full line. -/
def lineWidth : Nat := 64

/-- The first line. -/
def firstLine (label : String) : String :=
  "-----BEGIN " ++ label ++ "-----"

/-- The last line. -/
def lastLine (label : String) : String :=
  "-----END " ++ label ++ "-----"

/-- A symbol of the URL alphabet in the older one. -/
def olderSymbol (c : Char) : Char :=
  if c = '-' then '+' else if c = '_' then '/' else c

/-- A symbol of the older alphabet in the URL one. -/
def newerSymbol (c : Char) : Char :=
  if c = '+' then '-' else if c = '/' then '_' else c

/-- The padded symbols of bytes. -/
def body (bytes : Bytes) : List Char :=
  let symbols := (Base64Url.symbols bytes).map olderSymbol
  symbols ++ List.replicate ((4 - symbols.length % 4) % 4) '='

/-- Cuts a text into lines. -/
def lines : Nat → List Char → List (List Char)
  | 0, _ => []
  | fuel + 1, text =>
    if text.isEmpty then [] else text.take lineWidth :: lines fuel (text.drop lineWidth)

/-- The armoured text of bytes; it ends with a line feed. -/
def encode (label : String) (bytes : Bytes) : String :=
  let text := body bytes
  let all := firstLine label :: (lines text.length text).map String.ofList ++ [lastLine label]
  String.join (all.map fun line => line ++ "\n")

/-- The lines of a text, without the line feeds. -/
def linesOf (text : String) : List String :=
  (text.splitOn "\n").filter fun line => !line.isEmpty

/-- The bytes of an armoured text with the given label. -/
def decode? (label : String) (text : String) : Option Bytes :=
  match linesOf text with
  | first :: rest =>
    if first = firstLine label && rest.getLast? = some (lastLine label) then
      let symbols := (String.join rest.dropLast).toList.filter fun c => c ≠ '='
      (Base64Url.decodeText (String.ofList (symbols.map newerSymbol))).toOption
    else none
  | [] => none

end Latchkey.Pem

import Latchkey.Token.Claims
import Latchkey.Token.Header

set_option autoImplicit false

/-! # Compact tokens

A token is three base64 texts with dots between them: header, payload and signature, of which the
signature covers the first two and the dot. Checking looks at the parts from the right and stops at
the first thing that is wrong. -/

namespace Latchkey.Compact

/-! ## Parts -/

/-- The text before and after the last dot. -/
def splitLast? : List Char → Option (List Char × List Char)
  | [] => none
  | c :: rest =>
    match splitLast? rest with
    | some (before, after) => some (c :: before, after)
    | none => if c = '.' then some ([], rest) else none

/-- The parts of a token, counted from the right. -/
structure Parts where
  header : String
  payload : String
  signature : String
deriving DecidableEq, Repr

/-- The parts of a token; whatever precedes the last two is the header. -/
def parts? (token : String) : Option Parts := do
  let (message, signature) ← splitLast? token.toList
  let (header, payload) ← splitLast? message
  return ⟨String.ofList header, String.ofList payload, String.ofList signature⟩

/-- What the signature covers. -/
def signedText (header payload : String) : String :=
  header ++ "." ++ payload

/-- The text between the first and the second dot, counted from the left. -/
def secondPart? (token : String) : Option String :=
  match token.toList.dropWhile (· ≠ '.') with
  | _ :: rest => some (String.ofList (rest.takeWhile (· ≠ '.')))
  | [] => none

/-! ## Reading -/

/-- The header that a part writes. -/
def headerOf (part : String) : Except Rejection Header :=
  match Base64Url.decodeText part with
  | .error cause => .error (.base64 cause)
  | .ok bytes =>
    match (Json.Tree.parse? bytes).bind Header.ofTree? with
    | some header => .ok header
    | none => .error .json

/-- The header of a token. -/
def readHeader (token : String) : Except Rejection Header :=
  match parts? token with
  | some parts => headerOf parts.header
  | none => .error .invalidToken

/-! ## Writing -/

/-- Writes and signs a token. -/
def write (algorithm : KeyAlgorithm) (claims : Claims) : Except Rejection String :=
  let header := Base64Url.encode (Header.render algorithm.name algorithm.keyId)
  let payload := Base64Url.encode claims.render
  let text := signedText header payload
  match algorithm.sign (Bytes.ofText text) with
  | .ok signature => .ok (text ++ "." ++ signature)
  | .error r => .error r

/-! ## Checking -/

/-- Whether the payload's `nbf` member, which may be anything simple, could be passed over. It may
    stand once, and an array or object has to be empty. -/
def passesOver (tree : Json.Tree) : Bool :=
  match tree with
  | .object members =>
    match Json.objectFields? ["nbf"] members with
    | none => false
    | some fields =>
      match Json.Fields.find? fields "nbf" with
      | some (.array (_ :: _)) => false
      | some (.object (_ :: _)) => false
      | _ => true
  | _ => false

/-- The claims of a payload. -/
def claimsOf (part : String) : Except Rejection Claims :=
  match Base64Url.decodeText part with
  | .error cause => .error (.base64 cause)
  | .ok bytes =>
    match Json.Tree.parse? bytes with
    | none => .error .json
    | some tree =>
      match Claims.ofTree? tree with
      | none => .error .json
      | some claims => if passesOver tree then .ok claims else .error .json

/-- The checks of the claims, at a whole second of the wall clock. -/
def checkClaims (issuer audience : String) (second : Int) (claims : Claims) :
    Except Rejection Unit :=
  if claims.expiresAt < 0 then .error (.missingRequiredClaim "exp")
  else if claims.expiresAt < second then .error .expiredSignature
  else if claims.issuer ≠ issuer then .error .invalidIssuer
  else if claims.audience ≠ audience then .error .invalidAudience
  else .ok ()

/-- Checks a token against a key, an issuer and an audience at a whole second of the wall clock, and
    answers its claims. A key that does not fit its own algorithm refuses everything. -/
def check (algorithm : KeyAlgorithm) (issuer audience : String) (second : Int) (token : String) :
    Except Rejection Claims := do
  if algorithm.checking.family ≠ algorithm.name.family then .error .invalidAlgorithm
  let some parts := parts? token | .error .invalidToken
  let header ← headerOf parts.header
  if header.algorithm ≠ algorithm.name then .error .invalidAlgorithm
  let message := Bytes.ofText (signedText parts.header parts.payload)
  if !(← algorithm.accepts message parts.signature) then .error .invalidSignature
  let claims ← claimsOf parts.payload
  checkClaims issuer audience second claims
  return claims

end Latchkey.Compact

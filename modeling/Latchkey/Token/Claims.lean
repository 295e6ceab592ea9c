import Latchkey.Error
import Latchkey.Json.Record

set_option autoImplicit false

/-! # Claims

What a token says: who issued it for whom, whose it is, when it was issued and when it expires, its
identifier, and whatever else the caller wants carried along. In JSON the caller's claims stand
beside the registered ones, so the registered names are taken out of them first. -/

namespace Latchkey

/-- The claims of a token. -/
structure Claims where
  issuer : String
  audience : String
  /-- The text of the user's identifier. -/
  subject : Option String
  issuedAt : Int
  expiresAt : Int
  /-- The text of the token's identifier. -/
  tokenId : String
  /-- Everything else. -/
  custom : Json.Members

namespace Claims

/-- Names that a caller cannot set. -/
def reservedNames : List String := ["iss", "aud", "sub", "iat", "nbf", "exp", "jti", "kid"]

/-- A caller's claims without the reserved names. -/
def stripReserved (custom : Json.Members) : Json.Members :=
  custom.filter fun (name, _) => !reservedNames.contains name

/-! ## Reading the claims -/

/-- The identifier in a claim's text. -/
def identifier (claim text : String) : Except Error Uuid :=
  match Uuid.parse text with
  | .ok id => .ok id
  | .error e => .error (.invalidClaim claim e.message)

/-- The user that the token belongs to. -/
def userId (claims : Claims) : Except Error Uuid :=
  match claims.subject with
  | some text => identifier "sub" text
  | none => .error (.invalidClaim "sub" "missing")

/-- The identifier of the token's record. -/
def recordId (claims : Claims) : Except Error Uuid :=
  identifier "jti" claims.tokenId

/-- Whether the token has expired at a whole second; the second of expiry counts. -/
def isExpiredAt (claims : Claims) (second : Int) : Bool :=
  claims.expiresAt ≤ second

/-! ## JSON -/

/-- The names of the registered claims that are kept apart. -/
def fieldNames : List String := ["iss", "aud", "sub", "iat", "exp", "jti"]

/-- The members of the claims in the order in which they are written. -/
def members (claims : Claims) : Json.Members :=
  [("iss", .string claims.issuer), ("aud", .string claims.audience)]
    ++ (match claims.subject with
        | some subject => [("sub", .string subject)]
        | none => [])
    ++ [("iat", .int claims.issuedAt), ("exp", .int claims.expiresAt),
        ("jti", .string claims.tokenId)]
    ++ claims.custom

/-- The JSON text of the claims. -/
def render (claims : Claims) : Bytes :=
  (Json.object claims.members).render

/-- The claims that do not have a field of their own, as values. They stand one level deep. -/
def customOf? : Json.Fields → Json.Members → Option Json.Members
  | [], found => some found
  | (name, tree) :: rest, found => do
    let value ← Json.ofTree? (Json.maxDepth - 1) tree
    customOf? rest (Json.insertMember name value found)

/-- The claims that an object writes. Each registered name may stand once. -/
def ofTree? : Json.Tree → Option Claims
  | .object members => do
    let named ← Json.namedMembers? members
    let fields := named.filter fun (name, _) => fieldNames.contains name
    guard (Json.allDistinct (fields.map (·.1)))
    let custom ← customOf? (named.filter fun (name, _) => !fieldNames.contains name) []
    let issuer ← Json.Fields.required? fields "iss" Json.Tree.text?
    let audience ← Json.Fields.required? fields "aud" Json.Tree.text?
    let subject ← Json.Fields.optional? fields "sub" Json.Tree.text?
    let issuedAt ← Json.Fields.required? fields "iat" Json.Tree.int64?
    let expiresAt ← Json.Fields.required? fields "exp" Json.Tree.int64?
    let tokenId ← Json.Fields.required? fields "jti" Json.Tree.text?
    return ⟨issuer, audience, subject, issuedAt, expiresAt, tokenId, custom⟩
  | _ => none

/-- The claims that a JSON text writes. -/
def parse? (text : Bytes) : Option Claims :=
  (Json.Tree.parse? text).bind ofTree?

end Claims

end Latchkey

import Latchkey.Key.Stored

set_option autoImplicit false

/-! # Issued tokens -/

namespace Latchkey

/-- A token that was just signed, with what its holder needs to know about it. -/
structure IssuedToken where
  token : String
  tokenId : Uuid
  keyId : String
  userId : Uuid
  expiresAt : Instant
deriving DecidableEq, Repr

namespace IssuedToken

/-- Whole seconds until the token expires; zero once it has. -/
def expiresIn (issued : IssuedToken) (now : Instant) : Int :=
  max (now.secondsUntil issued.expiresAt) 0

/-- The names of the members. -/
def fieldNames : List String := ["token", "token_id", "key_id", "user_id", "expires_at"]

/-- The issued token as JSON. -/
def toJson (i : IssuedToken) : Json :=
  .object [("token", .string i.token), ("token_id", .uuid i.tokenId), ("key_id", .string i.keyId),
    ("user_id", .uuid i.userId), ("expires_at", .instant i.expiresAt)]

/-- The issued token that a tree writes. -/
def ofTree? (tree : Json.Tree) : Option IssuedToken := do
  let fields ← Json.recordFields? fieldNames tree
  let token ← Json.Fields.required? fields "token" Json.Tree.text?
  let tokenId ← Json.Fields.required? fields "token_id" Json.Tree.uuid?
  let keyId ← Json.Fields.required? fields "key_id" Json.Tree.text?
  let userId ← Json.Fields.required? fields "user_id" Json.Tree.uuid?
  let expiresAt ← Json.Fields.required? fields "expires_at" Json.Tree.instant?
  return ⟨token, tokenId, keyId, userId, expiresAt⟩

/-- The description of an issued token. -/
def describe (i : IssuedToken) : String :=
  Text.described "IssuedToken" [("token", Text.quoted i.token), ("token_id", i.tokenId.toText),
    ("key_id", Text.quoted i.keyId), ("user_id", i.userId.toText),
    ("expires_at", i.expiresAt.toText)]

end IssuedToken

end Latchkey

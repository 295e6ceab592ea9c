import Latchkey.Key.Stored

set_option autoImplicit false

/-! # Ledger records

One record stands for each refresh token that was issued. Its identifier is the token's own, and it
is valid until the token is exchanged or revoked; from then on it stays invalid. -/

namespace Latchkey

/-- The ledger's record of a token. -/
structure LedgerRecord where
  id : Uuid
  userId : Uuid
  isValid : Bool
  expiresAt : Instant
  createdAt : Instant
deriving DecidableEq, Repr

namespace LedgerRecord

/-- The record of a new token. A lifetime beyond the latest instant ends there. -/
def issue (id userId : Uuid) (now : Instant) (lifetime : Span) : LedgerRecord :=
  ⟨id, userId, true, now.addSaturating lifetime, now⟩

/-- Whether the token has expired; the instant of expiry counts. -/
def isExpiredAt (record : LedgerRecord) (now : Instant) : Bool :=
  record.expiresAt ≤ now

/-- The record, no longer valid. -/
def invalidated (record : LedgerRecord) : LedgerRecord :=
  { record with isValid := false }

/-- Makes the record invalid, and answers whether it was valid before. -/
def invalidate (record : LedgerRecord) : Bool × LedgerRecord :=
  (record.isValid, record.invalidated)

/-- The names of a record's members. -/
def fieldNames : List String := ["id", "user_id", "is_valid", "expire_at", "created_at"]

/-- The record as JSON. -/
def toJson (r : LedgerRecord) : Json :=
  .object [("id", .uuid r.id), ("user_id", .uuid r.userId), ("is_valid", .bool r.isValid),
    ("expire_at", .instant r.expiresAt), ("created_at", .instant r.createdAt)]

/-- The record that a tree writes. -/
def ofTree? (tree : Json.Tree) : Option LedgerRecord := do
  let fields ← Json.recordFields? fieldNames tree
  let id ← Json.Fields.required? fields "id" Json.Tree.uuid?
  let userId ← Json.Fields.required? fields "user_id" Json.Tree.uuid?
  let isValid ← Json.Fields.required? fields "is_valid" Json.Tree.bool?
  let expiresAt ← Json.Fields.required? fields "expire_at" Json.Tree.instant?
  let createdAt ← Json.Fields.required? fields "created_at" Json.Tree.instant?
  return ⟨id, userId, isValid, expiresAt, createdAt⟩

/-- The description of a record. -/
def describe (r : LedgerRecord) : String :=
  Text.described "RefreshTokenRecord" [("id", r.id.toText), ("user_id", r.userId.toText),
    ("is_valid", toString r.isValid), ("expire_at", r.expiresAt.toText),
    ("created_at", r.createdAt.toText)]

end LedgerRecord

end Latchkey

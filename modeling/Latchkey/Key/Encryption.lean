import Latchkey.Key.Stored

set_option autoImplicit false

/-! # Encryption keys

RSA key pairs. Both halves are kept as PEM text, and the public exponent and modulus beside them as
base64. Descriptions leave both halves out. -/

namespace Latchkey

/-- An RSA key pair as text. -/
structure EncryptionMaterial where
  publicKey : String
  privateKey : String
  exponent : String
  modulus : String
deriving DecidableEq, Repr

/-- An encryption key pair in the pool. -/
abbrev EncryptionKey := StoredKey EncryptionMaterial

namespace EncryptionMaterial

/-- The description of fresh material. -/
def describe (m : EncryptionMaterial) : String :=
  Text.describedPartly "EncryptionKeyMaterial" [("exponent", Text.quoted m.exponent),
    ("modulus", Text.quoted m.modulus)]

end EncryptionMaterial

namespace EncryptionKey

/-- The names of a record's members. -/
def fieldNames : List String :=
  ["id", "public_key", "private_key", "exponent", "modulus", "created_at", "deleted_at"]

/-- The key pair as JSON. -/
def toJson (key : EncryptionKey) : Json :=
  .object [("id", .uuid key.id), ("public_key", .string key.material.publicKey),
    ("private_key", .string key.material.privateKey), ("exponent", .string key.material.exponent),
    ("modulus", .string key.material.modulus), ("created_at", .instant key.createdAt),
    ("deleted_at", .optional .instant key.deletedAt)]

/-- The key pair that a tree writes. -/
def ofTree? (tree : Json.Tree) : Option EncryptionKey := do
  let fields ← Json.recordFields? fieldNames tree
  let id ← Json.Fields.required? fields "id" Json.Tree.uuid?
  let publicKey ← Json.Fields.required? fields "public_key" Json.Tree.text?
  let privateKey ← Json.Fields.required? fields "private_key" Json.Tree.text?
  let exponent ← Json.Fields.required? fields "exponent" Json.Tree.text?
  let modulus ← Json.Fields.required? fields "modulus" Json.Tree.text?
  let createdAt ← Json.Fields.required? fields "created_at" Json.Tree.instant?
  let deletedAt ← Json.Fields.optional? fields "deleted_at" Json.Tree.instant?
  return ⟨id, ⟨publicKey, privateKey, exponent, modulus⟩, createdAt, deletedAt⟩

/-- The description of a key pair. -/
def describe (key : EncryptionKey) : String :=
  Text.describedPartly "EncryptionKeyPairRecord" [("id", key.id.toText),
    ("exponent", Text.quoted key.material.exponent), ("created_at", key.createdAt.toText),
    ("deleted_at", Text.describedOption (key.deletedAt.map Instant.toText))]

end EncryptionKey

end Latchkey

import Latchkey.Bytes.Base64Url
import Latchkey.Ed25519.PrivateKeyInfo
import Latchkey.Key.Stored

set_option autoImplicit false

/-! # Signing keys

Ed25519 keys. The private half is kept as the base64 of its envelope and the public half as the
base64 of the raw point; the public half is also published as a web key. Descriptions leave the
private half out. -/

namespace Latchkey

/-- The two halves of a signing key as text. -/
structure SigningMaterial where
  privateKey : String
  publicKey : String
deriving DecidableEq, Repr

/-- A signing key in the pool. -/
abbrev SigningKey := StoredKey SigningMaterial

namespace SigningMaterial

/-- The key of a 32-byte seed. -/
def ofSeed (seed : Bytes) : SigningMaterial :=
  ⟨Base64Url.encode (Ed25519.envelope seed), Base64Url.encode (Ed25519.publicKey seed)⟩

/-- The description of fresh material. -/
def describe (m : SigningMaterial) : String :=
  Text.describedPartly "SigningKeyMaterial" [("public_key", Text.quoted m.publicKey)]

end SigningMaterial

/-! ## Web keys -/

/-- A public signing key as others see it. -/
structure WebKey where
  keyType : String
  curve : String
  use : String
  algorithm : String
  keyId : String
  x : String
deriving DecidableEq, Repr

namespace WebKey

/-- The names of the members. -/
def fieldNames : List String := ["kty", "crv", "use", "alg", "kid", "x"]

/-- The members in the order in which they are written. -/
def toJson (k : WebKey) : Json :=
  .object [("kty", .string k.keyType), ("crv", .string k.curve), ("use", .string k.use),
    ("alg", .string k.algorithm), ("kid", .string k.keyId), ("x", .string k.x)]

/-- The web key that a tree writes. -/
def ofTree? (tree : Json.Tree) : Option WebKey := do
  let fields ← Json.recordFields? fieldNames tree
  let keyType ← Json.Fields.required? fields "kty" Json.Tree.text?
  let curve ← Json.Fields.required? fields "crv" Json.Tree.text?
  let use ← Json.Fields.required? fields "use" Json.Tree.text?
  let algorithm ← Json.Fields.required? fields "alg" Json.Tree.text?
  let keyId ← Json.Fields.required? fields "kid" Json.Tree.text?
  let x ← Json.Fields.required? fields "x" Json.Tree.text?
  return ⟨keyType, curve, use, algorithm, keyId, x⟩

/-- The description of a web key. -/
def describe (k : WebKey) : String :=
  Text.described "JsonWebKey" [("kty", Text.quoted k.keyType), ("crv", Text.quoted k.curve),
    ("key_use", Text.quoted k.use), ("alg", Text.quoted k.algorithm),
    ("kid", Text.quoted k.keyId), ("x", Text.quoted k.x)]

/-- A set of web keys as JSON. -/
def setToJson (keys : List WebKey) : Json :=
  .object [("keys", .array (keys.map toJson))]

/-- The set of web keys that a tree writes. -/
def setOfTree? (tree : Json.Tree) : Option (List WebKey) := do
  let fields ← Json.recordFields? ["keys"] tree
  Json.Fields.required? fields "keys" (Json.Tree.list? ofTree?)

end WebKey

/-! ## Keys in the pool -/

namespace SigningKey

/-- The name of the algorithm that signing keys are for. -/
def algorithmName : String := "EdDSA"

/-- The text by which tokens name the key. -/
def keyId (key : SigningKey) : String :=
  key.id.toText

/-- The public half as a web key. -/
def webKey (key : SigningKey) : WebKey :=
  ⟨"OKP", "Ed25519", "sig", algorithmName, keyId key, key.material.publicKey⟩

/-- The names of a record's members. -/
def fieldNames : List String := ["id", "private_key", "public_key", "created_at", "deleted_at"]

/-- The key as JSON. -/
def toJson (key : SigningKey) : Json :=
  .object [("id", .uuid key.id), ("private_key", .string key.material.privateKey),
    ("public_key", .string key.material.publicKey), ("created_at", .instant key.createdAt),
    ("deleted_at", .optional .instant key.deletedAt)]

/-- The key that a tree writes. -/
def ofTree? (tree : Json.Tree) : Option SigningKey := do
  let fields ← Json.recordFields? fieldNames tree
  let id ← Json.Fields.required? fields "id" Json.Tree.uuid?
  let privateKey ← Json.Fields.required? fields "private_key" Json.Tree.text?
  let publicKey ← Json.Fields.required? fields "public_key" Json.Tree.text?
  let createdAt ← Json.Fields.required? fields "created_at" Json.Tree.instant?
  let deletedAt ← Json.Fields.optional? fields "deleted_at" Json.Tree.instant?
  return ⟨id, ⟨privateKey, publicKey⟩, createdAt, deletedAt⟩

/-- The description of a key. -/
def describe (key : SigningKey) : String :=
  Text.describedPartly "SigningKeyRecord" [("id", key.id.toText),
    ("public_key", Text.quoted key.material.publicKey), ("created_at", key.createdAt.toText),
    ("deleted_at", Text.describedOption (key.deletedAt.map Instant.toText))]

end SigningKey

end Latchkey

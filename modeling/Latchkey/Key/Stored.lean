import Latchkey.Json.Record
import Latchkey.Text.Description
import Latchkey.Time.Rfc3339
import Latchkey.Uuid

set_option autoImplicit false

/-! # Stored keys

A key that is kept in a pool: its material under a time-ordered identifier, so that a larger
identifier means a newer key, with the times at which it was created and, if it was, retired. A
retired key stays, so that what it signed can still be checked. -/

namespace Latchkey

/-- A key with material of type `μ`. -/
structure StoredKey (μ : Type) where
  id : Uuid
  material : μ
  createdAt : Instant
  deletedAt : Option Instant

namespace StoredKey

variable {μ : Type}

/-- Whether the key is in service. -/
def isUsable (key : StoredKey μ) : Bool :=
  key.deletedAt.isNone

/-- The key, retired at an instant. -/
def retire (key : StoredKey μ) (time : Instant) : StoredKey μ :=
  { key with deletedAt := some time }

end StoredKey

namespace Json

/-- An identifier in a record. -/
def Tree.uuid? (tree : Tree) : Option Uuid :=
  tree.text?.bind fun text => (Uuid.parse text).toOption

/-- An instant in a record. -/
def Tree.instant? (tree : Tree) : Option Instant :=
  tree.text?.bind Instant.parse?

/-- An identifier. -/
def uuid (id : Uuid) : Json :=
  .string id.toText

/-- An instant. -/
def instant (i : Instant) : Json :=
  .string i.toText

/-- A value that may be absent. -/
def optional {α : Type} (write : α → Json) : Option α → Json
  | some a => write a
  | none => .null

end Json

end Latchkey

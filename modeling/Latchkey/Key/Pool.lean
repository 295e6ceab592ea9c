import Latchkey.Error
import Latchkey.Key.Stored

set_option autoImplicit false

/-! # Key pools

A pool keeps every key it was ever given, in the order of the identifiers. Keys are added under new
identifiers and retired once; nothing else changes. -/

namespace Latchkey

/-- Whether a key's identifier is smaller than another's. -/
def StoredKey.older {μ : Type} (a b : StoredKey μ) : Prop :=
  a.id.toNat < b.id.toNat

/-- The stored keys, smallest identifier first. -/
structure Pool (μ : Type) where
  keys : List (StoredKey μ)
  ordered : keys.Pairwise StoredKey.older

namespace Pool

variable {μ : Type}

/-- The pool without keys. -/
def empty : Pool μ :=
  ⟨[], .nil⟩

/-! ## Looking -/

/-- The key of an identifier, retired or not. -/
def read? (pool : Pool μ) (id : Uuid) : Option (StoredKey μ) :=
  pool.keys.find? fun key => key.id = id

/-- Up to `limit` usable keys, newest first. -/
def recentUsable (pool : Pool μ) (limit : Nat) : List (StoredKey μ) :=
  (pool.keys.reverse.filter StoredKey.isUsable).take limit

/-! ## Adding -/

/-- Puts a key into its place. -/
def place (key : StoredKey μ) : List (StoredKey μ) → List (StoredKey μ)
  | [] => [key]
  | other :: rest =>
    if key.id.toNat < other.id.toNat then key :: other :: rest else other :: place key rest

theorem mem_place {key x : StoredKey μ} {keys : List (StoredKey μ)} :
    x ∈ place key keys ↔ x = key ∨ x ∈ keys := by
  induction keys with
  | nil => simp [place]
  | cons other rest ih =>
    unfold place
    split
    · simp
    · simp [ih, or_left_comm]

theorem pairwise_place {key : StoredKey μ} {keys : List (StoredKey μ)}
    (ordered : keys.Pairwise StoredKey.older) (fresh : ∀ x ∈ keys, x.id ≠ key.id) :
    (place key keys).Pairwise StoredKey.older := by
  induction keys with
  | nil => simp [place]
  | cons other rest ih =>
    have ⟨first, others⟩ := List.pairwise_cons.1 ordered
    unfold place
    split
    · rename_i smaller
      refine List.pairwise_cons.2 ⟨fun x mem => ?_, ordered⟩
      rcases List.mem_cons.1 mem with rfl | mem
      · exact smaller
      · exact Nat.lt_trans smaller (first x mem)
    · rename_i notSmaller
      have differs : other.id.toNat ≠ key.id.toNat := fun same =>
        fresh other List.mem_cons_self (Uuid.toNat_injective same)
      refine List.pairwise_cons.2
        ⟨fun x mem => ?_, ih others fun x mem => fresh x (List.mem_cons_of_mem _ mem)⟩
      rcases mem_place.1 mem with rfl | mem
      · exact Nat.lt_of_le_of_ne (Nat.le_of_not_lt notSmaller) differs
      · exact first x mem

/-- The pool with a new key, unless its identifier is taken. -/
def insert? (pool : Pool μ) (key : StoredKey μ) : Option (Pool μ) :=
  if fresh : ∀ x ∈ pool.keys, x.id ≠ key.id then
    some ⟨place key pool.keys, pairwise_place pool.ordered fresh⟩
  else none

/-! ## Retiring -/

/-- The key, retired if it is the usable one of this identifier. -/
def retireIf (id : Uuid) (time : Instant) (key : StoredKey μ) : StoredKey μ :=
  if key.id = id ∧ key.isUsable then key.retire time else key

@[simp] theorem id_retireIf (id : Uuid) (time : Instant) (key : StoredKey μ) :
    (retireIf id time key).id = key.id := by
  unfold retireIf
  split <;> rfl

theorem pairwise_retireIf (id : Uuid) (time : Instant) {keys : List (StoredKey μ)}
    (ordered : keys.Pairwise StoredKey.older) :
    (keys.map (retireIf id time)).Pairwise StoredKey.older := by
  refine List.pairwise_map.2 (ordered.imp fun h => ?_)
  simpa [StoredKey.older] using h

/-- Whether an identifier has a usable key. -/
def hasUsable (pool : Pool μ) (id : Uuid) : Bool :=
  match pool.read? id with
  | some key => key.isUsable
  | none => false

/-- The pool with the usable key of an identifier retired. -/
def retire (pool : Pool μ) (id : Uuid) (time : Instant) : Pool μ :=
  ⟨pool.keys.map (retireIf id time), pairwise_retireIf id time pool.ordered⟩

end Pool

end Latchkey

import Latchkey.Session.World

set_option autoImplicit false

/-! # Keys are kept

Whatever a pool is asked, its keys are never removed or altered, only retired, and a key that is
added has the material that the call gave (`Pool.keeps_answer`, `Pool.MadeFrom.answer`). -/

namespace Latchkey

namespace Pool

variable {μ : Type} {pool later last : Pool μ} {key other : StoredKey μ} {id : Uuid}

/-- Every key of a pool is in a later one, with the same material. -/
def Keeps (pool later : Pool μ) : Prop :=
  ∀ key ∈ pool.keys, ∃ key' ∈ later.keys, key'.id = key.id ∧ key'.material = key.material

theorem Keeps.refl (pool : Pool μ) : pool.Keeps pool :=
  fun key mem => ⟨key, mem, rfl, rfl⟩

theorem Keeps.trans (h : pool.Keeps later) (h' : later.Keeps last) : pool.Keeps last := by
  intro key mem
  obtain ⟨key', mem', id, material⟩ := h key mem
  obtain ⟨key'', mem'', id', material'⟩ := h' key' mem'
  exact ⟨key'', mem'', id'.trans id, material'.trans material⟩

/-- A key is found under its own identifier. -/
theorem read?_of_mem (mem : key ∈ pool.keys) : pool.read? key.id = some key := by
  have ordered := pool.ordered
  unfold read?
  generalize pool.keys = keys at mem ordered
  induction keys with
  | nil => simp at mem
  | cons first rest ih =>
    have ⟨older, others⟩ := List.pairwise_cons.1 ordered
    rcases List.mem_cons.1 mem with rfl | mem
    · simp
    · have differs : first.id ≠ key.id := fun same =>
        absurd (older key mem) (by rw [StoredKey.older, same]; exact Nat.lt_irrefl _)
      rw [List.find?_cons_of_neg (by simpa using differs)]
      exact ih mem others

theorem eq_of_id_eq (mem : key ∈ pool.keys) (mem' : other ∈ pool.keys) (same : key.id = other.id) :
    key = other := by
  have found := read?_of_mem mem
  rw [same, read?_of_mem mem'] at found
  exact (Option.some.inj found).symm

theorem mem_of_read? (found : pool.read? id = some key) : key ∈ pool.keys ∧ key.id = id :=
  ⟨List.mem_of_find?_eq_some found, by simpa using List.find?_some found⟩

theorem read?_eq_none_iff : pool.read? id = none ↔ ∀ key ∈ pool.keys, key.id ≠ id := by
  simp [read?]

theorem place_perm (key : StoredKey μ) (keys : List (StoredKey μ)) :
    (place key keys).Perm (key :: keys) := by
  induction keys with
  | nil => exact .refl _
  | cons first rest ih =>
    unfold place
    split
    · exact .refl _
    · exact (ih.cons first).trans (.swap key first rest)

theorem perm_of_insert? (inserted : pool.insert? key = some later) :
    later.keys.Perm (key :: pool.keys) := by
  unfold insert? at inserted
  split at inserted
  · obtain rfl := Option.some.inj inserted
    exact place_perm key pool.keys
  · simp at inserted

theorem exists_insert? (pool : Pool μ) (key : StoredKey μ)
    (fresh : ¬ ∃ other ∈ pool.keys, other.id = key.id) :
    ∃ later, pool.insert? key = some later :=
  ⟨_, dif_pos fun other inside same => fresh ⟨other, inside, same⟩⟩

theorem mem_of_insert? (inserted : pool.insert? key = some later) (x : StoredKey μ) :
    x ∈ later.keys ↔ x = key ∨ x ∈ pool.keys :=
  (perm_of_insert? inserted).mem_iff.trans List.mem_cons

theorem mem_retire {time : Instant} {x : StoredKey μ} :
    x ∈ (pool.retire id time).keys ↔ ∃ key ∈ pool.keys, retireIf id time key = x :=
  List.mem_map

@[simp] theorem material_retireIf (id : Uuid) (time : Instant) (key : StoredKey μ) :
    (retireIf id time key).material = key.material := by
  unfold retireIf
  split <;> rfl

theorem keeps_retire (id : Uuid) (time : Instant) : pool.Keeps (pool.retire id time) :=
  fun key mem => ⟨_, mem_retire.2 ⟨key, mem, rfl⟩, id_retireIf id time key,
    material_retireIf id time key⟩

/-- Whatever a pool is asked, it keeps its keys. -/
theorem keeps_answer (noun : String) (clock : Instant) (freshId : Uuid) (pool : Pool μ)
    (call : KeyCall μ) : pool.Keeps (pool.answer noun clock freshId call).2 := by
  cases call with
  | create material =>
    simp only [answer, add]
    cases inserted : pool.insert? ⟨freshId, material, clock, none⟩ with
    | none => exact Keeps.refl pool
    | some later => exact fun key mem => ⟨key, (mem_of_insert? inserted key).2 (.inr mem), rfl, rfl⟩
  | retire id => exact keeps_retire id clock
  | recentUsable limit => exact Keeps.refl pool
  | read id => exact Keeps.refl pool

/-- Where all material comes from. -/
def MadeFrom (seeds : Bytes → Prop) (pool : Pool SigningMaterial) : Prop :=
  ∀ key ∈ pool.keys, ∃ seed, seeds seed ∧ key.material = .ofSeed seed

/-- A pool has only keys from its seeds if it is asked to add none but such. -/
theorem MadeFrom.answer {seeds : Bytes → Prop} {pool : Pool SigningMaterial}
    (made : pool.MadeFrom seeds) (noun : String) (clock : Instant) (freshId : Uuid)
    (call : KeyCall SigningMaterial)
    (new : ∀ material, call = .create material → ∃ seed, seeds seed ∧ material = .ofSeed seed) :
    (pool.answer noun clock freshId call).2.MadeFrom seeds := by
  cases call with
  | create material =>
    simp only [Pool.answer, add]
    cases inserted : pool.insert? ⟨freshId, material, clock, none⟩ with
    | none => exact made
    | some later =>
      intro key mem
      rcases (mem_of_insert? inserted key).1 mem with rfl | mem
      · exact new material rfl
      · exact made key mem
  | retire id =>
    intro key mem
    obtain ⟨old, inside, rfl⟩ := mem_retire.1 mem
    rw [material_retireIf]
    exact made old inside
  | recentUsable limit => exact made
  | read id => exact made

end Pool

end Latchkey

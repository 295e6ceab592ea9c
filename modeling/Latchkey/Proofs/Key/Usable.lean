import Latchkey.Key.Window
import Latchkey.Session.World

set_option autoImplicit false

/-! # Keys that can sign

A pool has a key to sign with as long as one of its keys is usable, and the key that is picked is
usable then. -/

namespace Latchkey

namespace Pool

variable {μ : Type} {pool : Pool μ} {limit : Nat} {key : StoredKey μ}

theorem mem_keys_of_mem_recentUsable (mem : key ∈ pool.recentUsable limit) :
    key ∈ pool.keys ∧ key.isUsable = true := by
  simpa using List.mem_filter.1 (List.mem_of_mem_take mem)

theorem recentUsable_eq_nil_iff (positive : 0 < limit) :
    pool.recentUsable limit = [] ↔ ¬ ∃ key ∈ pool.keys, key.isUsable = true := by
  have some : limit ≠ 0 := Nat.ne_of_gt positive
  simp [recentUsable, List.take_eq_nil_iff, some, List.filter_eq_nil_iff]

end Pool

namespace KeyWindow

variable {candidates : List SigningKey} {draw : Nat} {key : SigningKey}

theorem mem_of_pick? (picked : pick? candidates draw = some key) : key ∈ candidates :=
  List.mem_of_getElem? picked

theorem pick?_eq_none_iff : pick? candidates draw = none ↔ candidates = [] := by
  unfold pick?
  rw [List.getElem?_eq_none_iff]
  constructor
  · intro beyond
    cases candidates with
    | nil => rfl
    | cons first rest =>
      exact absurd (Nat.mod_lt draw (Nat.succ_pos rest.length)) (Nat.not_lt.2 beyond)
  · rintro rfl
    simp

/-- A key is picked if there is a usable one, and then that is usable. -/
theorem exists_pick? {pool : Pool SigningMaterial} {limit : Nat} (positive : 0 < limit)
    (usable : ∃ key ∈ pool.keys, key.isUsable = true) (draw : Nat) :
    ∃ key ∈ pool.keys, key.isUsable = true ∧ pick? (pool.recentUsable limit) draw = some key := by
  cases picked : pick? (pool.recentUsable limit) draw with
  | none =>
    exact absurd usable ((Pool.recentUsable_eq_nil_iff positive).1 (pick?_eq_none_iff.1 picked))
  | some key =>
    obtain ⟨mem, fit⟩ := Pool.mem_keys_of_mem_recentUsable (mem_of_pick? picked)
    exact ⟨key, mem, fit, rfl⟩

/-- What is selected is picked from the keys that are listed, and nothing changes. -/
theorem run_select (window : KeyWindow) (draw : Nat) (drawn : Draw) (w : World) :
    (window.select draw).run.run (World.answer drawn) w
      = ((pick? (w.signing.recentUsable window.size) draw).elim (.error .noUsableKey) .ok, w) := by
  have listed : (Operation.signing (.recentUsable window.size)).run.run (World.answer drawn) w
      = (.ok (w.signing.recentUsable window.size), w) := rfl
  rw [select, ExceptT.run_bind, Program.bind_eq, Program.run_bind, listed]
  dsimp only
  cases pick? (w.signing.recentUsable window.size) draw <;> rfl

end KeyWindow

end Latchkey

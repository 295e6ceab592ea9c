import Latchkey.Proofs.Key.Aged
import Mathlib.Data.Set.Function

set_option autoImplicit false

/-! # The rotation window

Listing, selection and publication look at the same keys: the newest usable ones, as many as the
window holds (`KeyWindow.serves_newest_usable`). What is selected runs through all of them as the
draw does, and is always published. -/

namespace Latchkey

namespace Pool

variable {μ : Type} {pool : Pool μ} {key other : StoredKey μ} {limit : Nat}

/-- What is listed falls by the identifiers. -/
theorem pairwise_recentUsable (pool : Pool μ) (limit : Nat) :
    (pool.recentUsable limit).Pairwise fun a b => b.older a :=
  (List.pairwise_reverse.2 pool.ordered).sublist (pool.sublist_of_recentUsable limit)

theorem nodup_recentUsable (pool : Pool μ) (limit : Nat) : (pool.recentUsable limit).Nodup :=
  (Pool.nodup_ids_of_sublist (List.Sublist.refl (pool.recentUsable limit))).of_map _

/-- A usable key that is newer than a listed one is listed too. -/
theorem mem_recentUsable_of_older (listed : key ∈ pool.recentUsable limit)
    (inside : other ∈ pool.keys) (fit : other.isUsable = true) (older : key.older other) :
    other ∈ pool.recentUsable limit := by
  obtain ⟨-, -, few⟩ := (mem_recentUsable_iff limit).1 listed
  refine (mem_recentUsable_iff limit).2 ⟨inside, fit, ?_⟩
  have fewer : (pool.newer other).length ≤ (pool.newer key).length := by
    refine (List.monotone_filter_right pool.keys fun newest newer => ?_).length_le
    simp only [decide_eq_true_eq] at newer ⊢
    exact ⟨newer.1, Nat.lt_trans older newer.2⟩
  exact Nat.lt_of_le_of_lt fewer few

end Pool

namespace KeyWindow

variable {window : KeyWindow} {draw : Nat} {drawn : Draw} {w : World}

/-- A draw below the number of listed keys stands for the key at its place. -/
theorem run_select_of_lt (inside : draw < (w.signing.recentUsable window.size).length) :
    (window.select draw).run.run (World.answer drawn) w
      = (.ok (w.signing.recentUsable window.size)[draw], w) := by
  rw [run_select, pick?, Nat.mod_eq_of_lt inside, List.getElem?_eq_getElem inside, Option.elim_some]

/-- The draws below the number of listed keys are one to one with these keys. -/
theorem bijOn_select (window : KeyWindow) (drawn : Draw) (w : World) :
    Set.BijOn (fun draw => ((window.select draw).run.run (World.answer drawn) w).1)
      (Set.Iio (w.signing.recentUsable window.size).length)
      {answer | ∃ key ∈ w.signing.recentUsable window.size, answer = .ok key} := by
  refine ⟨fun draw inside => ?_, fun draw inside draw' inside' same => ?_, ?_⟩
  · exact ⟨_, List.getElem_mem inside, congrArg Prod.fst (run_select_of_lt inside)⟩
  · dsimp only at same
    rw [run_select_of_lt inside, run_select_of_lt inside'] at same
    exact (w.signing.nodup_recentUsable window.size).getElem_inj_iff.1 (Except.ok.inj same)
  · rintro _ ⟨key, mem, rfl⟩
    obtain ⟨draw, inside, rfl⟩ := List.mem_iff_getElem.1 mem
    exact ⟨draw, inside, congrArg Prod.fst (run_select_of_lt inside)⟩

/-- Selection fails only for want of usable keys, and then always. -/
theorem select_eq_error_iff (positive : 0 < window.size) {e : Error} :
    ((window.select draw).run.run (World.answer drawn) w).1 = .error e
      ↔ e = .noUsableKey ∧ ∀ key ∈ w.signing.keys, key.isUsable = false := by
  have none : pick? (w.signing.recentUsable window.size) draw = none
      ↔ ∀ key ∈ w.signing.keys, key.isUsable = false := by
    rw [pick?_eq_none_iff, Pool.recentUsable_eq_nil_iff positive]
    simp
  rw [← none, run_select]
  cases pick? (w.signing.recentUsable window.size) draw <;> simp [eq_comm]

theorem mem_of_select {key : SigningKey}
    (selected : ((window.select draw).run.run (World.answer drawn) w).1 = .ok key) :
    key ∈ w.signing.recentUsable window.size := by
  rw [run_select] at selected
  cases picked : pick? (w.signing.recentUsable window.size) draw with
  | none => simp [picked] at selected
  | some other =>
    rw [picked] at selected
    obtain rfl := Except.ok.inj selected
    exact mem_of_pick? picked

/-- The window of any settings, over any pool in memory.
    - What is listed falls by the identifiers, has as many keys as the window holds or as are usable,
      whichever is less, and has only usable keys, and with a key all usable ones that are newer.
    - Selection fails, as there is no usable key, if and only if no key is usable; and the draws below
      the number of listed keys are one to one with these.
    - What is published are the listed keys in their order, so every key that can be selected is
      published, with its identifier and its public half.
    None of this changes anything. -/
theorem serves_newest_usable (s : RotationSettings) (drawn : Draw) (w : World) :
    let window := ofSettings s
    let select (draw : Nat) := (window.select draw).run.run (World.answer drawn) w
    ∃ listed, (Operation.signing (.recentUsable (max s.selectionWindow 1))).run.run
          (World.answer drawn) w = (.ok listed, w)
      ∧ (listed.Pairwise fun a b => b.id.toNat < a.id.toNat)
      ∧ listed.length
        = min (max s.selectionWindow 1) (w.signing.keys.countP StoredKey.isUsable)
      ∧ (∀ key ∈ listed, key ∈ w.signing.keys ∧ key.isUsable = true
        ∧ ∀ other ∈ w.signing.keys, other.isUsable = true → key.id.toNat < other.id.toNat →
          other ∈ listed)
      ∧ (∀ draw, (select draw).2 = w
        ∧ ∀ e, (select draw).1 = .error e
          ↔ e = .noUsableKey ∧ ∀ key ∈ w.signing.keys, key.isUsable = false)
      ∧ Set.BijOn (fun draw => (select draw).1) (Set.Iio listed.length)
        {answer | ∃ key ∈ listed, answer = .ok key}
      ∧ window.publicKeys.run.run (World.answer drawn) w = (.ok (listed.map SigningKey.webKey), w)
      ∧ ∀ draw key, (select draw).1 = .ok key → ∃ published ∈ listed.map SigningKey.webKey,
        published.keyId = key.id.toText ∧ published.x = key.material.publicKey := by
  intro window select
  have positive : 0 < window.size := Nat.le_max_right _ _
  refine ⟨w.signing.recentUsable window.size, rfl, w.signing.pairwise_recentUsable _, ?_,
    fun key listed => ?_, fun draw => ⟨?_, fun e => select_eq_error_iff positive⟩,
    bijOn_select window drawn w, rfl, fun draw key selected => ?_⟩
  · rw [Pool.length_recentUsable, Pool.card_usable, List.countP_eq_length_filter]
    rfl
  · obtain ⟨inside, fit⟩ := Pool.mem_keys_of_mem_recentUsable listed
    exact ⟨inside, fit, fun other => Pool.mem_recentUsable_of_older listed⟩
  · exact congrArg Prod.snd (run_select window draw drawn w)
  · exact ⟨SigningKey.webKey key, List.mem_map_of_mem (mem_of_select selected), rfl, rfl⟩

end KeyWindow

end Latchkey

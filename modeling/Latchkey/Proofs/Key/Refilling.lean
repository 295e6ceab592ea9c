import Latchkey.Proofs.Key.Retiring
import Latchkey.Proofs.Key.Upkeep

set_option autoImplicit false

/-! # Refilling a pool

The step of a pass that refills a pool lists as many usable keys as there are to be, and creates
those that are missing, each under a fresh identifier. It creates no more than are missing, and
exactly these if it succeeds; where it fails, something has stood in its way
(`Maintenance.run_refill`). -/

namespace Latchkey

namespace Maintenance

variable {s : RotationSettings} {plan : Nat → Option Error} {draws : Nat → Draw}
  {n m k missing : Nat} {clock : Instant} {w : World} {kind : PoolKind} {e : Error}

section

variable {pool mid later : Pool kind.Material} {new : List (StoredKey kind.Material)}

/-- What can stand in the way of a refill that asks the requests from `n` on and before `m`. -/
inductive Obstacle (s : RotationSettings) (draws : Nat → Draw) (kind : PoolKind)
    (pool : Pool kind.Material) (n m : Nat) : Prop
  /-- An identifier is drawn that a key of the pool has. -/
  | taken (i : Nat) (since : n ≤ i) (before : i < m)
    (used : ∃ key ∈ pool.keys, key.id = (draws i).keyId)
  /-- An identifier is drawn twice. -/
  | twice (j i : Nat) (since : n ≤ j) (later : j < i) (before : i < m)
    (same : (draws j).keyId = (draws i).keyId)
  /-- A key pair is to have too small a modulus. -/
  | small (paired : kind = .encryption) (below : s.encryptionKeyBits < minModulusBits)
  /-- No key pair can be generated. -/
  | noPair (paired : kind = .encryption) (i : Nat) (since : n ≤ i) (before : i < m) (e : Error)
    (fails : (draws i).keyPair s.encryptionKeyBits = .error e)

/-- How the creation of missing keys can end, by the number of keys that are created. -/
inductive Ending (s : RotationSettings) (plan : Nat → Option Error) (draws : Nat → Draw)
    (kind : PoolKind) (pool : Pool kind.Material) (n m missing count : Nat) :
    Except Error Unit → Prop
  | complete (all : count = missing) : Ending s plan draws kind pool n m missing count (.ok ())
  /-- A call fails. -/
  | broken (i : Nat) (e : Error) (few : count ≤ missing) (fails : plan i = some e) :
    Ending s plan draws kind pool n m missing count (.error e)
  /-- A key that is missing cannot be created. -/
  | blocked (e : Error) (few : count < missing) (obstacle : Obstacle s draws kind pool n m) :
    Ending s plan draws kind pool n m missing count (.error e)

/-- All missing keys are created if no call is planned to fail and nothing stands in the way. -/
theorem Ending.eq_of_calm {count : Nat} {result : Except Error Unit}
    (h : Ending s plan draws kind pool n m missing count result) (calm : ∀ i, plan i = none)
    (clear : count < missing → ¬ Obstacle s draws kind pool n m) :
    count = missing ∧ result = .ok () := by
  cases h with
  | complete all => exact ⟨all, rfl⟩
  | broken i e few fails => cases (calm i).symm.trans fails
  | blocked e few obstacle => exact absurd obstacle (clear few)

/-- What becomes of a pool in which missing keys are created, by requests from `n` on and
    before `m`. -/
structure Filling (s : RotationSettings) (plan : Nat → Option Error) (draws : Nat → Draw)
    (clock : Instant) (n m missing : Nat) (kind : PoolKind) (pool later : Pool kind.Material)
    (new : List (StoredKey kind.Material)) (result : Except Error Unit) : Prop where
  le : n ≤ m
  keys : later.keys.Perm (new ++ pool.keys)
  made : ∀ key ∈ new, key.isUsable = true ∧ key.createdAt = clock
    ∧ ∃ i, n ≤ i ∧ i < m ∧ (draws i).keyId = key.id
  ends : Ending s plan draws kind pool n m missing new.length result

/-- Nothing is created. -/
theorem Filling.none {result : Except Error Unit} (le : n ≤ m)
    (ends : Ending s plan draws kind pool n m missing 0 result) :
    Filling s plan draws clock n m missing kind pool pool [] result :=
  ⟨le, .refl _, by simp, ends⟩

theorem Obstacle.mono {n' m' : Nat} (h : Obstacle s draws kind pool n m) (from_le : n' ≤ n)
    (to_le : m ≤ m') : Obstacle s draws kind pool n' m' := by
  cases h with
  | taken i since before used => exact .taken i (by omega) (by omega) used
  | twice j i since later before same => exact .twice j i (by omega) later (by omega) same
  | small paired below => exact .small paired below
  | noPair paired i since before e fails => exact .noPair paired i (by omega) (by omega) e fails

theorem Filling.mono {n' m' : Nat} {result : Except Error Unit}
    (h : Filling s plan draws clock n m missing kind pool later new result) (from_le : n' ≤ n)
    (to_le : m ≤ m') : Filling s plan draws clock n' m' missing kind pool later new result where
  le := from_le.trans (h.le.trans to_le)
  keys := h.keys
  made := fun key mem => by
    obtain ⟨fit, time, i, since, before, drawn⟩ := h.made key mem
    exact ⟨fit, time, i, by omega, by omega, drawn⟩
  ends := by
    cases h.ends with
    | complete all => exact .complete all
    | broken i e few fails => exact .broken i e few fails
    | blocked e few obstacle => exact .blocked e few (obstacle.mono from_le to_le)

/-- What stands in the way after keys were created stood there before, or one of these keys has the
    identifier that is drawn. -/
theorem Obstacle.of_filling {first : List (StoredKey kind.Material)} {result : Except Error Unit}
    (h : Filling s plan draws clock n m missing kind pool mid first result)
    (obstacle : Obstacle s draws kind mid m k) : Obstacle s draws kind pool n k := by
  have le := h.le
  cases obstacle with
  | taken i since before used =>
    obtain ⟨key, inside, same⟩ := used
    rcases List.mem_append.1 (h.keys.mem_iff.1 inside) with mem | mem
    · obtain ⟨-, -, j, since', before', drawn⟩ := h.made key mem
      exact .twice j i since' (by omega) before (drawn.trans same)
    · exact .taken i (by omega) before ⟨key, mem, same⟩
  | twice j i since later before same => exact .twice j i (by omega) later before same
  | small paired below => exact .small paired below
  | noPair paired i since before e fails => exact .noPair paired i (by omega) before e fails

/-- One key, and then those that are missing still. -/
theorem Filling.cons {first new : List (StoredKey kind.Material)} {result : Except Error Unit}
    (h : Filling s plan draws clock n m 1 kind pool mid first (.ok ()))
    (h' : Filling s plan draws clock m k missing kind mid later new result) :
    Filling s plan draws clock n k (missing + 1) kind pool later (new ++ first) result where
  le := h.le.trans h'.le
  keys := by
    rw [List.append_assoc]
    exact h'.keys.trans (h.keys.append_left new)
  made := by
    intro key mem
    rcases List.mem_append.1 mem with mem | mem
    · obtain ⟨fit, time, i, since, before, drawn⟩ := h'.made key mem
      exact ⟨fit, time, i, h.le.trans since, before, drawn⟩
    · obtain ⟨fit, time, i, since, before, drawn⟩ := h.made key mem
      exact ⟨fit, time, i, since, before.trans_le h'.le, drawn⟩
  ends := by
    have one : first.length = 1 := by
      cases h.ends with
      | complete all => exact all
    rw [List.length_append, one]
    cases h'.ends with
    | complete all => exact .complete (congrArg (· + 1) all)
    | broken i e few fails => exact .broken i e (Nat.succ_le_succ few) fails
    | blocked e few obstacle => exact .blocked e (Nat.succ_lt_succ few) (obstacle.of_filling h)

variable {result : Except Error Unit}

theorem Filling.nodup (h : Filling s plan draws clock n m missing kind pool later new result) :
    ((new ++ pool.keys).map (·.id)).Nodup :=
  (h.keys.map _).nodup_iff.1 later.nodup_ids

theorem Filling.shelf (h : Filling s plan draws clock n m missing kind pool later new result) :
    later.shelf = ⟨(new.map (·.id)).toFinset ∪ pool.shelf.known,
      (new.map (·.id)).toFinset ∪ pool.shelf.usable⟩ := by
  have usable : new.filter StoredKey.isUsable = new :=
    List.filter_eq_self.2 fun key mem => (h.made key mem).1
  rw [Shelf.mk.injEq]
  constructor
  · rw [Pool.shelf, Pool.shelf, List.toFinset_eq_of_perm _ _ (h.keys.map _), List.map_append,
      List.toFinset_append]
  · rw [Pool.shelf, Pool.shelf, List.toFinset_eq_of_perm _ _ ((h.keys.filter _).map _),
      List.filter_append, usable, List.map_append, List.toFinset_append]

/-- New keys have new identifiers. -/
theorem Filling.disjoint (h : Filling s plan draws clock n m missing kind pool later new result) :
    Disjoint (new.map (·.id)).toFinset pool.shelf.known := by
  have nodup := h.nodup
  rw [List.map_append] at nodup
  rw [Pool.shelf, List.disjoint_toFinset_iff_disjoint]
  exact List.disjoint_of_nodup_append nodup

theorem Filling.card_new (h : Filling s plan draws clock n m missing kind pool later new result) :
    (new.map (·.id)).toFinset.card = new.length := by
  have nodup := h.nodup
  rw [List.map_append] at nodup
  rw [List.toFinset_card_of_nodup nodup.of_append_left, List.length_map]

theorem Filling.card_usable (h : Filling s plan draws clock n m missing kind pool later new result) :
    later.shelf.usable.card = pool.shelf.usable.card + new.length := by
  rw [h.shelf, Finset.card_union_of_disjoint (h.disjoint.mono_right pool.usable_subset), h.card_new,
    Nat.add_comm]

end

/-! ## Creating keys -/

/-- A call that creates a key. -/
theorem run_create (s : RotationSettings) (plan : Nat → Option Error) (draws : Nat → Draw)
    (kind : PoolKind) (material : kind.Material) (n : Nat) (w : World) :
    ∃ new later result, (Operation.keys kind (.create material)).run.run
          (World.planned plan draws) (n, w) = (result, n + 1, w.setPool kind later)
      ∧ Filling s plan draws w.clock n (n + 1) 1 kind (w.pool kind) later new
        (result.map fun _ => ()) := by
  have le : n ≤ n + 1 := Nat.le_succ n
  cases planned : plan n with
  | some e =>
    rw [World.run_keys_of_fault planned]
    exact ⟨[], w.pool kind, .error e, by simp, .none le (.broken n e (Nat.zero_le 1) planned)⟩
  | none =>
    rw [World.run_keys planned]
    simp only [Pool.answer, Pool.add]
    cases inserted : (w.pool kind).insert? ⟨(draws n).keyId, material, w.clock, none⟩ with
    | none =>
      have used : ∃ key ∈ (w.pool kind).keys, key.id = (draws n).keyId := by
        by_contra fresh
        obtain ⟨later, inserts⟩ := (w.pool kind).exists_insert?
          ⟨(draws n).keyId, material, w.clock, none⟩ fresh
        rw [inserts] at inserted
        cases inserted
      exact ⟨[], w.pool kind, _, rfl,
        .none le (.blocked _ Nat.one_pos (.taken n n.le_refl n.lt_succ_self used))⟩
    | some later =>
      refine ⟨[⟨(draws n).keyId, material, w.clock, none⟩], later, _, rfl, le,
        Pool.perm_of_insert? inserted, ?_, .complete rfl⟩
      rintro key mem
      obtain rfl := List.mem_singleton.1 mem
      exact ⟨rfl, rfl, n, n.le_refl, n.lt_succ_self, rfl⟩

/-- Creates a key of a pool from fresh material. -/
def newKey (s : RotationSettings) : (kind : PoolKind) → Operation (StoredKey kind.Material)
  | .signing => newSigningKey
  | .encryption => do
    let material ← newKeyPair s.encryptionKeyBits
    Operation.encryption (.create material)

/-- Creates so many keys of a pool. -/
def createKeys (s : RotationSettings) (kind : PoolKind) : Nat → Operation Unit
  | 0 => return
  | missing + 1 => do
    let _ ← newKey s kind
    createKeys s kind missing

theorem createSigning_eq (s : RotationSettings) (missing : Nat) :
    createSigning missing = createKeys s .signing missing := by
  induction missing with
  | zero => rfl
  | succ missing ih =>
    rw [createSigning, ih]
    rfl

theorem run_newKey (s : RotationSettings) (plan : Nat → Option Error) (draws : Nat → Draw)
    (kind : PoolKind) (n : Nat) (w : World) :
    ∃ m new later result, (newKey s kind).run.run (World.planned plan draws) (n, w)
        = (result, m, w.setPool kind later)
      ∧ Filling s plan draws w.clock n m 1 kind (w.pool kind) later new
        (result.map fun _ => ()) := by
  cases kind with
  | signing =>
    have drawn : Operation.drawSeed.run.run (World.planned plan draws) (n, w)
        = (.ok (draws n).seed, n + 1, w) := by
      simp only [Operation.drawSeed, Operation.ask, Program.request, Program.ask_bind,
        Program.done_bind, ExceptT.run_mk, Program.run, World.planned]
      cases plan n <;> rfl
    obtain ⟨new, later, result, ran, filling⟩ := run_create s plan draws .signing
      (.ofSeed (draws n).seed) (n + 1) w
    refine ⟨n + 2, new, later, result, ?_, filling.mono (Nat.le_succ n) (Nat.le_refl _)⟩
    rw [newKey, newSigningKey, Operation.run_bind, drawn]
    exact ran
  | encryption =>
    rw [newKey, Operation.run_bind, newKeyPair]
    by_cases below : s.encryptionKeyBits < minModulusBits
    · rw [if_pos below]
      exact ⟨n, [], w.encryption, _, rfl,
        .none n.le_refl (.blocked _ Nat.one_pos (.small rfl below))⟩
    · have drawn : (Operation.drawKeyPair s.encryptionKeyBits).run.run (World.planned plan draws)
          (n, w) = ((draws n).keyPair s.encryptionKeyBits, n + 1, w) := by
        simp only [Operation.drawKeyPair, Operation.ask, Program.request, ExceptT.run_mk,
          Program.run, World.planned]
        cases plan n <;> rfl
      rw [if_neg below, drawn]
      cases pair : (draws n).keyPair s.encryptionKeyBits with
      | error e =>
        exact ⟨n + 1, [], w.encryption, .error e, rfl,
          .none (Nat.le_succ n)
            (.blocked _ Nat.one_pos (.noPair rfl n n.le_refl n.lt_succ_self e pair))⟩
      | ok material =>
        obtain ⟨new, later, result, ran, filling⟩ := run_create s plan draws
          .encryption material (n + 1) w
        exact ⟨n + 2, new, later, result, ran, filling.mono (Nat.le_succ n) (Nat.le_refl _)⟩

theorem run_createKeys (s : RotationSettings) (plan : Nat → Option Error) (draws : Nat → Draw)
    (kind : PoolKind) (missing n : Nat) (w : World) :
    ∃ m new later result, (createKeys s kind missing).run.run (World.planned plan draws) (n, w)
        = (result, m, w.setPool kind later)
      ∧ Filling s plan draws w.clock n m missing kind (w.pool kind) later new result := by
  induction missing generalizing n w with
  | zero =>
    exact ⟨n, [], w.pool kind, .ok (), by simp [createKeys, Program.run],
      .none n.le_refl (.complete rfl)⟩
  | succ missing ih =>
    obtain ⟨m, first, mid, result, ran, filling⟩ := run_newKey s plan draws kind n w
    rw [createKeys, Operation.run_bind, ran]
    cases result with
    | error e =>
      refine ⟨m, first, mid, .error e, rfl, filling.le, filling.keys, filling.made, ?_⟩
      cases filling.ends with
      | broken i _ few fails => exact .broken i e (few.trans (Nat.le_add_left 1 _)) fails
      | blocked _ few obstacle => exact .blocked e (few.trans_le (Nat.le_add_left 1 _)) obstacle
    | ok key =>
      obtain ⟨k, new, later, result, ran', rest⟩ := ih m (w.setPool kind mid)
      rw [World.pool_setPool, World.clock_setPool] at rest
      exact ⟨k, new ++ first, later, result, by simpa using ran', filling.cons rest⟩

/-! ## Whole refills -/

/-- Refills a pool. -/
def refill (s : RotationSettings) : PoolKind → Operation Nat
  | .signing => ensureSigning s
  | .encryption => (ensureEncryption s).map fun created => if created then 1 else 0

/-- Both pools are refilled in the same way. -/
theorem refill_eq (s : RotationSettings) (kind : PoolKind) :
    refill s kind = Operation.refilling do
      let usable ← Operation.keys kind (.recentUsable (target s kind))
      createKeys s kind (target s kind - usable.length)
      return target s kind - usable.length := by
  cases kind with
  | signing =>
    rw [refill, ensureSigning]
    simp only [createSigning_eq s]
    rfl
  | encryption =>
    refine congrArg (Program.ask Request.lockRefill) (funext fun _ =>
      congrArg (Program.ask (Request.encryption (.recentUsable 1))) (funext fun answer => ?_))
    rcases answer with e | usable
    · rfl
    cases usable with
    | cons key rest =>
      have none : target s .encryption - (key :: rest).length = 0 :=
        Nat.sub_eq_zero_of_le (Nat.le_add_left 1 _)
      simp only [Program.done_bind, ExceptT.bindCont, none]
      rfl
    | nil =>
      simp only [Program.done_bind, ExceptT.bindCont, List.isEmpty_nil, if_true]
      have one : target s .encryption - ([] : List EncryptionKey).length = 1 := rfl
      simp only [one, createKeys, newKey, newKeyPair]
      split
      · rfl
      · refine congrArg (Program.ask (Request.drawKeyPair s.encryptionKeyBits))
          (funext fun pair => ?_)
        rcases pair with e | material
        · rfl
        refine congrArg (Program.ask (Request.encryption (.create material)))
          (funext fun made => ?_)
        cases made <;> rfl

/-- Whoever holds the refill lock sees the same world. -/
theorem run_refilling {α : Type} (operation : Operation α) (n : Nat) (w : World) :
    (Operation.refilling operation).run.run (World.planned plan draws) (n, w)
      = ((operation.run.run (World.planned plan draws) (n + 1, w)).1,
        (operation.run.run (World.planned plan draws) (n + 1, w)).2.1 + 1,
        (operation.run.run (World.planned plan draws) (n + 1, w)).2.2) := by
  -- The lock is no store, so no plan makes it fail.
  have locks : World.planned plan draws .lockRefill (n, w) = ((), n + 1, w) := by
    simp only [World.planned]
    cases plan n <;> rfl
  have unlocks : ∀ t, World.planned plan draws .unlockRefill t = ((), t.1 + 1, t.2) := by
    intro t
    simp only [World.planned]
    cases plan t.1 <;> rfl
  simp only [Operation.refilling, Operation.ask, Program.request, Program.ask_bind,
    Program.done_bind, ExceptT.run_mk, Program.run, locks, Program.run_bind, unlocks]

/-- The step that refills a pool changes nothing but this pool, and creates the keys that are
    missing, or some of them if there is an obstacle. -/
theorem run_refill (s : RotationSettings) (kind : PoolKind) (plan : Nat → Option Error)
    (draws : Nat → Draw) (n : Nat) (w : World) :
    let missing := target s kind - (w.pool kind).shelf.usable.card
    ∃ m new later result, (refill s kind).run.run (World.planned plan draws) (n, w)
        = (result.map fun _ => missing, m, w.setPool kind later)
      ∧ Filling s plan draws w.clock n m missing kind (w.pool kind) later new result := by
  intro missing
  rw [refill_eq, run_refilling, Operation.run_bind]
  cases planned : plan (n + 1) with
  | some e =>
    rw [World.run_keys_of_fault planned]
    exact ⟨n + 3, [], w.pool kind, .error e, by simp [Except.map],
      .none (Nat.le_add_right n 3) (.broken (n + 1) e (Nat.zero_le _) planned)⟩
  | none =>
    have lacks : target s kind - ((w.pool kind).recentUsable (target s kind)).length = missing := by
      rw [Pool.length_recentUsable]
      omega
    obtain ⟨m, new, later, result, ran, filling⟩ := run_createKeys s plan draws kind missing
      (n + 2) w
    rw [World.run_keys planned]
    simp only [Pool.answer, World.setPool_pool, lacks]
    rw [Operation.run_bind, ran]
    refine ⟨m + 1, new, later, result, ?_, filling.mono (Nat.le_add_right n 2) (Nat.le_succ m)⟩
    cases result <;> rfl

end Maintenance

end Latchkey

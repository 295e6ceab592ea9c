import Latchkey.Key.Maintenance
import Latchkey.Proofs.Key.History
import Latchkey.Proofs.Key.Usable
import Latchkey.Proofs.Session.Atomicity

set_option autoImplicit false

/-! # Retiring keys that are too old

The step of a pass that retires the keys of a pool lists the newest usable keys and retires those of
the list that are too old, one after the other, the newest first. Any call may fail. What has been
done then stays done, so the step has always retired some first part of these keys, and all of them
if it succeeds (`Maintenance.run_retireAged`). -/

namespace Latchkey

/-- An operation of two parts ends with the first part if that fails. -/
theorem Operation.run_bind {α β σ : Type} (first : Operation α) (rest : α → Operation β)
    (handler : Program.Handler Request Request.Answer σ) (s : σ) :
    (first >>= rest).run.run handler s = match first.run.run handler s with
      | (.ok a, t) => (rest a).run.run handler t
      | (.error e, t) => (.error e, t) := by
  rw [ExceptT.run_bind, Program.bind_eq, Program.run_bind]
  rcases first.run.run handler s with ⟨e | a, t⟩ <;> rfl

/-! ## Calls to either pool -/

/-- Asks the store of a pool. -/
def Operation.keys : (kind : PoolKind) → (call : KeyCall kind.Material) → Operation call.Answer
  | .signing, call => Operation.signing call
  | .encryption, call => Operation.encryption call

namespace World

variable {plan : Nat → Option Error} {draws : Nat → Draw} {n : Nat} {w : World} {kind : PoolKind}

/-- What the keys of a pool are called. -/
def noun : PoolKind → String
  | .signing => signingNoun
  | .encryption => encryptionNoun

/-- The world with another pool in place of one. -/
def setPool (w : World) : (kind : PoolKind) → Pool kind.Material → World
  | .signing, pool => { w with signing := pool }
  | .encryption, pool => { w with encryption := pool }

@[simp] theorem pool_setPool (w : World) (kind : PoolKind) (pool : Pool kind.Material) :
    (w.setPool kind pool).pool kind = pool := by
  cases kind <;> rfl

@[simp] theorem clock_setPool (w : World) (kind : PoolKind) (pool : Pool kind.Material) :
    (w.setPool kind pool).clock = w.clock := by
  cases kind <;> rfl

@[simp] theorem ledger_setPool (w : World) (kind : PoolKind) (pool : Pool kind.Material) :
    (w.setPool kind pool).ledger = w.ledger := by
  cases kind <;> rfl

@[simp] theorem setPool_pool (w : World) (kind : PoolKind) : w.setPool kind (w.pool kind) = w := by
  cases kind <;> rfl

@[simp] theorem setPool_setPool (w : World) (kind : PoolKind) (pool later : Pool kind.Material) :
    (w.setPool kind pool).setPool kind later = w.setPool kind later := by
  cases kind <;> rfl

theorem stock_eq (w : World) (kind : PoolKind) : w.stock kind = (w.pool kind).shelf := by
  cases kind <;> rfl

theorem usable_subset (w : World) (kind : PoolKind) :
    (w.stock kind).usable ⊆ (w.stock kind).known := by
  rw [stock_eq]
  exact (w.pool kind).usable_subset

/-- A call that is planned to fail does nothing. -/
theorem run_keys_of_fault {e : Error} (fails : plan n = some e) (call : KeyCall kind.Material) :
    (Operation.keys kind call).run.run (planned plan draws) (n, w) = (.error e, n + 1, w) := by
  cases kind <;> simp [Operation.keys, Operation.signing, Operation.encryption, Operation.ask,
    Program.request, Program.run, planned, respond, fails]

/-- A call that is not planned to fail is answered by the pool. -/
theorem run_keys (calm : plan n = none) (call : KeyCall kind.Material) :
    (Operation.keys kind call).run.run (planned plan draws) (n, w)
      = (((w.pool kind).answer (noun kind) w.clock (draws n).keyId call).1, n + 1,
        w.setPool kind ((w.pool kind).answer (noun kind) w.clock (draws n).keyId call).2) := by
  cases kind <;> simp only [Operation.keys, Operation.signing, Operation.encryption, Operation.ask,
    Program.request, Program.run, planned, respond, calm, ExceptT.run_mk] <;> rfl

/-- Requests are counted upwards. -/
theorem le_run_planned {α : Type} (plan : Nat → Option Error) (draws : Nat → Draw)
    (p : Program Request Request.Answer α) (n : Nat) (w : World) :
    n ≤ (p.run (planned plan draws) (n, w)).2.1 := by
  induction p generalizing n w with
  | done result => exact Nat.le_refl n
  | ask request next ih => exact (Nat.le_succ n).trans (ih _ (n + 1) _)

end World

/-! ## One pool -/

@[simp] theorem StoredKey.isUsable_retire {μ : Type} (key : StoredKey μ) (time : Instant) :
    (key.retire time).isUsable = false :=
  rfl

namespace Pool

variable {μ : Type} {pool : Pool μ} {key : StoredKey μ} {id other : Uuid} {time : Instant}

/-- The pool with all of these keys retired, as far as they are usable. -/
def retireAll (pool : Pool μ) (ids : List Uuid) (time : Instant) : Pool μ :=
  ids.foldl (fun pool id => pool.retire id time) pool

@[simp] theorem retireAll_nil (pool : Pool μ) (time : Instant) : pool.retireAll [] time = pool :=
  rfl

@[simp] theorem retireAll_cons (pool : Pool μ) (id : Uuid) (ids : List Uuid) (time : Instant) :
    pool.retireAll (id :: ids) time = (pool.retire id time).retireAll ids time :=
  rfl

theorem hasUsable_retire_of_ne (different : other ≠ id) :
    (pool.retire id time).hasUsable other = pool.hasUsable other := by
  simp [hasUsable_eq, shelf_retire, different]

theorem shelf_retireAll (pool : Pool μ) (ids : List Uuid) (time : Instant) :
    (pool.retireAll ids time).shelf
      = ⟨pool.shelf.known, pool.shelf.usable \ ids.toFinset⟩ := by
  induction ids generalizing pool with
  | nil => simp
  | cons id ids ih =>
    rw [retireAll_cons, ih, shelf_retire, List.toFinset_cons, Finset.sdiff_insert]
    rw [Finset.erase_sdiff_comm]

/-- A key is retired if it is among these keys and was usable. -/
theorem read?_retireAll (found : pool.read? id = some key) (ids : List Uuid) (time : Instant) :
    (pool.retireAll ids time).read? id
      = some (if id ∈ ids ∧ key.isUsable then key.retire time else key) := by
  obtain ⟨-, same⟩ := mem_of_read? found
  induction ids generalizing pool key with
  | nil => simpa using found
  | cons first ids ih =>
    have found' := read?_retire found first time
    rw [retireAll_cons, ih found' (by simpa using same)]
    by_cases this : key.id = first ∧ key.isUsable = true
    · have retired : retireIf first time key = key.retire time := if_pos this
      simp [retired, ← same, this.1, this.2]
    · have stays : retireIf first time key = key := if_neg this
      rw [stays]
      congr 1
      refine if_congr ?_ rfl rfl
      simp only [List.mem_cons, ← same]
      tauto

/-- The keys that a pass finds to be too old: those that it lists and that were created before the
    limit. -/
def aged (pool : Pool μ) (limit : Instant) : List (StoredKey μ) :=
  (pool.recentUsable Maintenance.scanLimit).filter fun key => key.createdAt < limit

theorem sublist_of_recentUsable (pool : Pool μ) (limit : Nat) :
    (pool.recentUsable limit).Sublist pool.keys.reverse :=
  (List.take_sublist ..).trans List.filter_sublist

theorem nodup_ids_of_sublist {keys : List (StoredKey μ)} {limit : Nat}
    (listed : keys.Sublist (pool.recentUsable limit)) : (keys.map (·.id)).Nodup := by
  have all : (pool.keys.reverse.map (·.id)).Nodup := by
    rw [List.map_reverse]
    exact List.nodup_reverse.2 pool.nodup_ids
  exact all.sublist ((listed.trans (pool.sublist_of_recentUsable limit)).map _)

theorem hasUsable_of_mem_aged {limit : Instant} (mem : key ∈ pool.aged limit) :
    pool.hasUsable key.id = true := by
  obtain ⟨inside, fit⟩ := mem_keys_of_mem_recentUsable (List.mem_filter.1 mem).1
  rw [hasUsable, read?_of_mem inside]
  exact fit

/-- The pool with all that is too old retired, as far as a pass finds it. -/
def pruned (pool : Pool μ) (limit time : Instant) : Pool μ :=
  pool.retireAll ((pool.aged limit).map (·.id)) time

theorem pruned_of_aged_eq_nil {limit : Instant} (none : pool.aged limit = []) (time : Instant) :
    pool.pruned limit time = pool := by
  rw [pruned, none, List.map_nil, retireAll_nil]

end Pool

namespace Maintenance

variable {plan : Nat → Option Error} {draws : Nat → Draw} {n : Nat} {w : World} {kind : PoolKind}

/-- After how many days the keys of a pool are too old. -/
def maxAge (s : RotationSettings) : PoolKind → Int
  | .signing => s.maxKeyAgeDays
  | .encryption => s.maxEncryptionKeyAgeDays

/-- Retires the keys of a pool that are too old. -/
def retireAged (s : RotationSettings) (now : Instant) : PoolKind → Operation Nat
  | .signing => retireSigning s now
  | .encryption => retireEncryption s now

/-- How a step that retires keys can end, with the keys that it has retired then. -/
inductive Retirement {μ : Type} (plan : Nat → Option Error) (limit : Except Error Instant)
    (pool : Pool μ) : List (StoredKey μ) → Except Error Nat → Prop
  /-- The limit cannot be computed. -/
  | noLimit (e : Error) (outside : limit = .error e) : Retirement plan limit pool [] (.error e)
  /-- A call fails. -/
  | broken (time : Instant) (gone : List (StoredKey μ)) (i : Nat) (e : Error)
    (inside : limit = .ok time) (part : gone <+: pool.aged time) (fails : plan i = some e) :
    Retirement plan limit pool gone (.error e)
  | complete (time : Instant) (inside : limit = .ok time) :
    Retirement plan limit pool (pool.aged time) (.ok (pool.aged time).length)

namespace Retirement

variable {μ : Type} {limit : Except Error Instant} {pool : Pool μ} {gone : List (StoredKey μ)}
  {result : Except Error Nat}

theorem sublist (h : Retirement plan limit pool gone result) :
    gone.Sublist (pool.recentUsable scanLimit) := by
  cases h with
  | noLimit => exact List.nil_sublist _
  | broken time gone i e inside part fails => exact part.sublist.trans List.filter_sublist
  | complete => exact List.filter_sublist

/-- A retirement that succeeds has a limit, and retires all that it finds to be too old. -/
theorem exists_limit {count : Nat} (h : Retirement plan limit pool gone (.ok count)) :
    ∃ time, limit = .ok time ∧ gone = pool.aged time ∧ count = gone.length := by
  cases h with
  | complete time inside => exact ⟨time, inside, rfl, rfl⟩

/-- A retirement succeeds that has a limit, if no call is planned to fail. -/
theorem eq_of_calm {time : Instant} (h : Retirement plan limit pool gone result)
    (calm : ∀ i, plan i = none) (inside : limit = .ok time) :
    gone = pool.aged time ∧ result = .ok gone.length := by
  cases h with
  | noLimit e outside => cases outside.symm.trans inside
  | broken time gone i e _ part fails => cases (calm i).symm.trans fails
  | complete time' inside' =>
    obtain rfl := Except.ok.inj (inside'.symm.trans inside)
    exact ⟨rfl, rfl⟩

end Retirement

/-- Retiring usable keys one after the other retires all of them, or the first ones up to a call that
    fails. -/
theorem run_retireEach (plan : Nat → Option Error) (draws : Nat → Draw) (n : Nat) (w : World)
    (keys : List (StoredKey kind.Material))
    (distinct : (keys.map (·.id)).Nodup)
    (usable : ∀ key ∈ keys, (w.pool kind).hasUsable key.id = true) :
    ∃ m gone result, gone <+: keys
      ∧ (retireEach (fun id => Operation.keys kind (.retire id)) keys).run.run
          (World.planned plan draws) (n, w)
        = (result, m, w.setPool kind ((w.pool kind).retireAll (gone.map (·.id)) w.clock))
      ∧ (gone = keys ∧ result = .ok keys.length ∨ ∃ i e, plan i = some e ∧ result = .error e) := by
  induction keys generalizing n w with
  | nil => exact ⟨n, [], .ok 0, List.nil_prefix, by simp [retireEach, Program.run], .inl ⟨rfl, rfl⟩⟩
  | cons key rest ih =>
    rw [List.map_cons, List.nodup_cons] at distinct
    obtain ⟨other, distinct⟩ := distinct
    rw [List.forall_mem_cons] at usable
    obtain ⟨fit, usable⟩ := usable
    unfold retireEach
    rw [Operation.run_bind]
    cases planned : plan n with
    | some e =>
      rw [World.run_keys_of_fault planned]
      exact ⟨n + 1, [], _, List.nil_prefix, by simp, .inr ⟨n, e, planned, rfl⟩⟩
    | none =>
      rw [World.run_keys planned]
      simp only [Pool.answer, fit]
      -- The other keys are usable still, since they have other identifiers.
      obtain ⟨m, gone, result, part, ran, ends⟩ := ih (n + 1)
        (w.setPool kind ((w.pool kind).retire key.id w.clock)) distinct fun later mem => by
          have different : later.id ≠ key.id := fun same =>
            other (same ▸ List.mem_map_of_mem mem)
          rw [World.pool_setPool, Pool.hasUsable_retire_of_ne different]
          exact usable later mem
      refine ⟨m, key :: gone, result.map (· + 1), List.cons_prefix_cons.2 ⟨rfl, part⟩, ?_, ?_⟩
      · rw [Operation.run_bind, ran]
        cases result <;> simp [Except.map, Program.run]
      · rcases ends with ⟨rfl, rfl⟩ | ⟨i, e, fails, rfl⟩
        · exact .inl ⟨rfl, rfl⟩
        · exact .inr ⟨i, e, fails, rfl⟩

/-- Both pools are rid of their old keys in the same way. -/
theorem retireAged_eq (s : RotationSettings) (now : Instant) (kind : PoolKind) :
    retireAged s now kind = Operation.ofResult (cutoff now (maxAge s kind)) >>= fun limit =>
      Operation.keys kind (.recentUsable scanLimit) >>= fun keys =>
        retireEach (fun id => Operation.keys kind (.retire id))
          (keys.filter fun key => key.createdAt < limit) := by
  cases kind <;> rfl

/-- The step that retires the keys of a pool changes nothing but this pool, and it retires keys that
    are too old: all that it finds, or the first of them up to a call that fails. -/
theorem run_retireAged (s : RotationSettings) (now : Instant) (kind : PoolKind)
    (plan : Nat → Option Error) (draws : Nat → Draw) (n : Nat) (w : World) :
    ∃ m gone result, (retireAged s now kind).run.run (World.planned plan draws) (n, w)
        = (result, m, w.setPool kind ((w.pool kind).retireAll (gone.map (·.id)) w.clock))
      ∧ Retirement plan (cutoff now (maxAge s kind)) (w.pool kind) gone result := by
  rw [retireAged_eq, Operation.run_bind]
  cases limit : cutoff now (maxAge s kind) with
  | error e => exact ⟨n, [], _, by simp [Operation.ofResult, Program.run], .noLimit e rfl⟩
  | ok time =>
    simp only [Operation.ofResult, ExceptT.run_mk, Program.run]
    rw [Operation.run_bind]
    cases planned : plan n with
    | some e =>
      rw [World.run_keys_of_fault planned]
      exact ⟨n + 1, [], _, by simp, .broken time [] n e rfl List.nil_prefix planned⟩
    | none =>
      rw [World.run_keys planned]
      simp only [Pool.answer, World.setPool_pool]
      obtain ⟨m, gone, result, part, ran, ends⟩ := run_retireEach plan draws (n + 1) w
        ((w.pool kind).aged time) (Pool.nodup_ids_of_sublist List.filter_sublist)
        fun key mem => Pool.hasUsable_of_mem_aged mem
      refine ⟨m, gone, result, ran, ?_⟩
      rcases ends with ⟨rfl, rfl⟩ | ⟨i, e, fails, rfl⟩
      · exact .complete time rfl
      · exact .broken time gone i e rfl part fails

end Maintenance

end Latchkey

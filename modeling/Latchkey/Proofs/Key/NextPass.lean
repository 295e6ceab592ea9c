import Latchkey.Proofs.Key.Aged

set_option autoImplicit false

/-! # The pass after a pass

A pool that has enough usable keys, none of them too old, gives a pass nothing to do
(`Maintenance.run_pass_of_settled`). A pass that succeeds leaves enough usable keys, so the next one
changes nothing until one of them has grown too old (`Maintenance.next_pass_changes_nothing`). -/

namespace Latchkey

/-- The order of a pool's keys is that of their identifiers, so it is known by its keys alone. -/
theorem Pool.eq_of_perm {μ : Type} {pool later : Pool μ} (same : later.keys.Perm pool.keys) :
    later = pool := by
  have listed : later.keys = pool.keys := same.eq_of_pairwise
    (fun _ _ _ _ older younger => absurd older (Nat.lt_asymm younger)) later.ordered pool.ordered
  cases later
  cases pool
  obtain rfl := listed
  rfl

theorem Pool.aged_eq_nil {μ : Type} {pool : Pool μ} {limit : Instant}
    (young : ∀ key ∈ pool.keys, key.isUsable = true → ¬ key.createdAt < limit) :
    pool.aged limit = [] := by
  refine List.eq_nil_iff_forall_not_mem.2 fun key mem => ?_
  obtain ⟨inside, fit, old, -⟩ := Pool.mem_aged_iff.1 mem
  exact young key inside fit old

/-- A world is known by its clock, its ledger and its two pools. -/
theorem World.eq_of_pools {w after : World} (clock : after.clock = w.clock)
    (ledger : after.ledger = w.ledger) (pools : ∀ kind, after.pool kind = w.pool kind) :
    after = w := by
  cases after
  cases w
  exact World.mk.injEq .. ▸ ⟨clock, pools .signing, pools .encryption, ledger⟩

/-- A report without counts and errors is the empty one. -/
theorem MaintenanceReport.eq_of_count_eq_zero {report : MaintenanceReport}
    (success : report.errors = []) (zero : ∀ step, report.count step = 0) :
    report = ⟨0, 0, 0, 0, []⟩ := by
  cases report
  exact MaintenanceReport.mk.injEq .. ▸ ⟨zero (.retire .signing), zero (.refill .signing),
    zero (.retire .encryption), zero (.refill .encryption), success⟩

namespace Maintenance

variable {s : RotationSettings} {now clock : Instant} {plan : Nat → Option Error}
  {draws : Nat → Draw} {n m count : Nat} {kind : PoolKind}

/-- A pool has enough usable keys, and none of them is too old. -/
structure Settled (s : RotationSettings) (limit : Instant) (kind : PoolKind)
    (pool : Pool kind.Material) : Prop where
  young : ∀ key ∈ pool.keys, key.isUsable = true → ¬ key.createdAt < limit
  enough : target s kind ≤ pool.shelf.usable.card

/-- A refill that succeeds leaves enough usable keys. -/
theorem Maintained.target_le {pool later : Pool kind.Material}
    {gone new : List (StoredKey kind.Material)} {retired : Except Error Nat}
    (h : Maintained s now plan draws clock n m kind pool later gone new retired (.ok count)) :
    target s kind ≤ later.shelf.usable.card := by
  obtain ⟨created, -⟩ := h.missing_eq
  obtain ⟨result, filling, -⟩ := h.refill
  rw [filling.card_usable, created]
  omega

/-- The two steps for a pool leave it as it is if they find nothing to do. -/
theorem Maintained.eq_of_nil {pool later : Pool kind.Material} {retired created : Except Error Nat}
    (h : Maintained s now plan draws clock n m kind pool later [] [] retired created) :
    later = pool := by
  obtain ⟨result, filling, -⟩ := h.refill
  exact Pool.eq_of_perm filling.keys

/-- A pass over pools that are settled changes nothing, and says so. -/
theorem run_pass_of_settled (s : RotationSettings) (now : Instant) (limit : PoolKind → Instant)
    (inside : ∀ kind, cutoff now (maxAge s kind) = .ok (limit kind)) (draws : Nat → Draw) (w : World)
    (settled : ∀ kind, Settled s (limit kind) kind (w.pool kind)) :
    ∃ asked, (pass s now).run (World.planned (fun _ => none) draws) (0, w)
      = (⟨0, 0, 0, 0, []⟩, asked, w) := by
  have nothing : ∀ kind, (w.pool kind).aged (limit kind) = [] := fun kind =>
    Pool.aged_eq_nil (settled kind).young
  obtain ⟨report, asked, after, ran, clock, ledger, calm⟩ :=
    exists_maintained_of_calm s now limit inside draws w
  simp only [Pool.pruned_of_aged_eq_nil (nothing _), nothing] at calm
  obtain ⟨success, tended⟩ := calm fun kind missing =>
    absurd (settled kind).enough (Nat.not_le.2 missing)
  have quiet : ∀ kind, after.pool kind = w.pool kind ∧ report.count (.retire kind) = 0
      ∧ report.count (.refill kind) = 0 := by
    intro kind
    obtain ⟨new, tended, size⟩ := tended kind
    rw [Nat.sub_eq_zero_of_le (settled kind).enough, List.length_eq_zero_iff] at size
    subst size
    refine ⟨tended.eq_of_nil, ?_, ?_⟩
    · rw [tended.retired_eq, tended.card_gone]
      rfl
    · rw [tended.created_eq, tended.card_added]
      rfl
  have unchanged : after = w := World.eq_of_pools clock ledger fun kind => (quiet kind).1
  have silent : report = ⟨0, 0, 0, 0, []⟩ :=
    MaintenanceReport.eq_of_count_eq_zero success fun step => by
      cases step with
      | retire kind => exact (quiet kind).2.1
      | refill kind => exact (quiet kind).2.2
  rw [ran, silent, unchanged]
  exact ⟨asked, rfl⟩

/-- After a pass at the time of the wall clock that reports no error, a later pass reports no error
    either and changes nothing, as long as no usable key is too old by then. This holds whatever calls
    of the first pass were planned to fail, and whatever is drawn for either. -/
theorem next_pass_changes_nothing (s : RotationSettings) (positive : ∀ kind, 0 < maxAge s kind)
    (plan : Nat → Option Error) (draws draws' : Nat → Draw) (w : World) (time : Instant)
    (proper : w.clock.nanos < Instant.nanosPerSecond) (passed : w.clock ≤ time)
    (proper' : time.nanos < Instant.nanosPerSecond)
    (represented : Instant.inRange time.seconds = true) :
    let (report, _, after) := (pass s w.clock).run (World.planned plan draws) (0, w)
    let next : World := { after with clock := time }
    report.errors = [] →
      (∀ kind limit, cutoff time (maxAge s kind) = .ok limit →
        ∀ key ∈ (after.pool kind).keys, key.isUsable = true → ¬ key.createdAt < limit) →
      ∃ asked, (pass s time).run (World.planned (fun _ => none) draws') (0, next)
        = (⟨0, 0, 0, 0, []⟩, asked, next) := by
  obtain ⟨report, asked, after, ran, tended⟩ :=
    exists_maintained_of_success s w.clock plan draws w
  rw [ran]
  intro success young
  have inside : ∀ kind, cutoff time (maxAge s kind) = .ok (time.daysBefore (maxAge s kind)) := by
    intro kind
    obtain ⟨gone, new, retired, created, tended⟩ := tended success kind
    obtain ⟨limit, inside, -⟩ := tended.retirement.exists_limit
    exact cutoff_of_le (positive kind) proper inside passed proper' represented
  have settled : ∀ kind, Settled s (time.daysBefore (maxAge s kind)) kind (after.pool kind) := by
    intro kind
    obtain ⟨gone, new, retired, created, tended⟩ := tended success kind
    exact ⟨young kind _ (inside kind), tended.target_le⟩
  -- Setting the clock leaves the pools as they are.
  have same : ∀ kind, World.pool { after with clock := time } kind = after.pool kind := by
    intro kind
    cases kind <;> rfl
  refine run_pass_of_settled s time _ inside draws' _ fun kind => ?_
  rw [same]
  exact settled kind

/-- An old signing key, a new one, and no encryption key: a pass retires the old key and creates two
    signing keys and an encryption key, and the pass of the next day does nothing. -/
theorem quiet_on_next_day :
    let s : RotationSettings := {}
    let w : World := ⟨⟨1700000000, 0⟩, ⟨[usableKey 1 1600000000, usableKey 2 1700000000], by decide⟩,
      .empty, .empty⟩
    let draws : Nat → Draw := fun i =>
      ⟨.ofNat (10 + i), [], fun _ => .ok ⟨"public", "private", "AQAB", "AQAB"⟩⟩
    let time : Instant := ⟨1700086400, 0⟩
    let (report, _, after) := (pass s w.clock).run (World.planned (fun _ => none) draws) (0, w)
    let next : World := { after with clock := time }
    (∀ kind, 0 < maxAge s kind) ∧ w.clock ≤ time ∧ report = ⟨1, 2, 0, 1, []⟩
      ∧ ∃ asked, (pass s time).run (World.planned (fun _ => none) draws) (0, next)
        = (⟨0, 0, 0, 0, []⟩, asked, next) := by
  intro s w draws time
  have positive : ∀ kind, 0 < maxAge s kind := by
    intro kind
    cases kind <;> decide
  have young : ∀ kind limit, cutoff time (maxAge s kind) = .ok limit →
      ∀ key ∈ (((pass s w.clock).run (World.planned (fun _ => none) draws) (0, w)).2.2.pool kind).keys,
        key.isUsable = true → ¬ key.createdAt < limit := by
    intro kind limit inside
    obtain rfl := eq_daysBefore_of_cutoff (by decide) inside
    cases kind <;> decide
  have quiet := next_pass_changes_nothing s positive (fun _ => none) draws draws w time (by decide)
    (by decide) (by decide) (by decide)
  have reported : ((pass s w.clock).run (World.planned (fun _ => none) draws) (0, w)).1
      = ⟨1, 2, 0, 1, []⟩ := by decide
  generalize (pass s w.clock).run (World.planned (fun _ => none) draws) (0, w) = ran
    at quiet young reported ⊢
  obtain ⟨report, asked, after⟩ := ran
  obtain rfl : report = _ := reported
  exact ⟨positive, by decide, rfl, quiet rfl young⟩

end Maintenance

end Latchkey

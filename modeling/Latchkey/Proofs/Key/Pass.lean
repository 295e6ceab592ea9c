import Latchkey.Proofs.Key.Refilling

set_option autoImplicit false

/-! # The four steps of a pass

A pass runs four steps, each on what the one before has left (`Maintenance.run_pass`): for either
pool it first retires keys and then refills. `Maintenance.Maintained` says what becomes of a pool in two
such steps, whichever calls fail; what a pass makes of the stock and of single keys follows from
it. -/

namespace Latchkey

/-- The keys of a pool that are in one stock, and not in another. -/
def Stock.added (before later : Stock) (kind : PoolKind) : Finset Uuid :=
  (later kind).known \ (before kind).known

/-- The steps of a pass. -/
inductive PassStep
  | retire (kind : PoolKind)
  | refill (kind : PoolKind)
deriving DecidableEq

namespace PassStep

/-- The steps that tend to a pool, in their order. -/
def tending (kind : PoolKind) : List PassStep :=
  [.retire kind, .refill kind]

/-- All steps, in their order. -/
def order : List PassStep :=
  tending .signing ++ tending .encryption

@[simp] theorem mem_order (step : PassStep) : step ∈ order := by
  rcases step with kind | kind <;> cases kind <;> decide

/-- What a step is called. -/
def title : PassStep → String
  | .retire .signing => "Signing key retirement"
  | .refill .signing => "Signing key creation"
  | .retire .encryption => "Encryption key retirement"
  | .refill .encryption => "Encryption key creation"

/-- The line that reports the failure of a step. -/
def line (step : PassStep) (e : Error) : String :=
  step.title ++ " error: " ++ e.message

/-- What is reported of a step that ends like this. -/
def lines (step : PassStep) : Except Error Nat → List String
  | .ok _ => []
  | .error e => [step.line e]

/-- What a step does. -/
def operation (s : RotationSettings) (now : Instant) : PassStep → Operation Nat
  | .retire kind => Maintenance.retireAged s now kind
  | .refill kind => Maintenance.refill s kind

/-- A step as a pass runs it: its count, and the lines that report its failure. -/
def program (s : RotationSettings) (now : Instant) (step : PassStep) :
    Program Request Request.Answer (Nat × List String) :=
  Maintenance.step step.title (step.operation s now)

/-- The steps before a step. -/
def preceding (step : PassStep) : List PassStep :=
  order.takeWhile (· ≠ step)

end PassStep

namespace MaintenanceReport

/-- The count of a step. -/
def count (report : MaintenanceReport) : PassStep → Nat
  | .retire .signing => report.signingRetired
  | .refill .signing => report.signingCreated
  | .retire .encryption => report.encryptionRetired
  | .refill .encryption => report.encryptionCreated

/-- The report of steps that end like this. -/
def ofResults (result : PassStep → Except Error Nat) : MaintenanceReport where
  signingRetired := Maintenance.counted (result (.retire .signing))
  signingCreated := Maintenance.counted (result (.refill .signing))
  encryptionRetired := Maintenance.counted (result (.retire .encryption))
  encryptionCreated := Maintenance.counted (result (.refill .encryption))
  errors := PassStep.order.flatMap fun step => step.lines (result step)

@[simp] theorem count_ofResults (result : PassStep → Except Error Nat) (step : PassStep) :
    (ofResults result).count step = Maintenance.counted (result step) := by
  rcases step with kind | kind <;> cases kind <;> rfl

theorem errors_ofResults_eq_nil_iff {result : PassStep → Except Error Nat} :
    (ofResults result).errors = [] ↔ ∀ step, ∃ count, result step = .ok count := by
  have nil : ∀ step, PassStep.lines step (result step) = [] ↔ ∃ count, result step = .ok count := by
    intro step
    cases result step <;> simp [PassStep.lines]
  simp only [ofResults, List.flatMap_eq_nil_iff, nil]
  exact forall_congr' fun step => ⟨fun h => h step.mem_order, fun h _ => h⟩

end MaintenanceReport

namespace Maintenance

/-! ## Step after step -/

section

variable {σ : Type} {handler : Program.Handler Request Request.Answer σ} {s : RotationSettings}
  {now : Instant}

/-- How a step ends, and the state after it. -/
def runStep (handler : Program.Handler Request Request.Answer σ) (s : RotationSettings)
    (now : Instant) (step : PassStep) (st : σ) : Except Error Nat × σ :=
  (step.operation s now).run.run handler st

/-- The state after steps, each run on what the one before has left. -/
def stateAfter (handler : Program.Handler Request Request.Answer σ) (s : RotationSettings)
    (now : Instant) (steps : List PassStep) (st : σ) : σ :=
  steps.foldl (fun st step => (runStep handler s now step st).2) st

/-- How a step of a pass ends. -/
def resultOf (handler : Program.Handler Request Request.Answer σ) (s : RotationSettings)
    (now : Instant) (st : σ) (step : PassStep) : Except Error Nat :=
  (runStep handler s now step (stateAfter handler s now step.preceding st)).1

theorem stateAfter_append (first rest : List PassStep) (st : σ) :
    stateAfter handler s now (first ++ rest) st
      = stateAfter handler s now rest (stateAfter handler s now first st) :=
  List.foldl_append

theorem run_program (step : PassStep) (st : σ) : (step.program s now).run handler st
    = ((counted (runStep handler s now step st).1, step.lines (runStep handler s now step st).1),
      (runStep handler s now step st).2) := by
  rw [PassStep.program, Maintenance.step, Program.run_bind, runStep]
  rcases (step.operation s now).run.run handler st with ⟨e | n, t⟩ <;> rfl

theorem pass_eq (s : RotationSettings) (now : Instant) : pass s now
    = ((PassStep.retire .signing).program s now).bind fun r₁ =>
      ((PassStep.refill .signing).program s now).bind fun r₂ =>
      ((PassStep.retire .encryption).program s now).bind fun r₃ =>
      ((PassStep.refill .encryption).program s now).bind fun r₄ =>
      .done ⟨r₁.1, r₂.1, r₃.1, r₄.1, r₁.2 ++ r₂.2 ++ r₃.2 ++ r₄.2⟩ :=
  rfl

/-- A pass runs its steps one after the other and reports how they end. -/
theorem run_pass (handler : Program.Handler Request Request.Answer σ) (s : RotationSettings)
    (now : Instant) (st : σ) :
    (pass s now).run handler st
      = (.ofResults (resultOf handler s now st), stateAfter handler s now PassStep.order st) := by
  rw [pass_eq]
  simp only [Program.run_bind, run_program, Program.run]
  refine Prod.ext ?_ rfl
  simp only [MaintenanceReport.ofResults, MaintenanceReport.mk.injEq]
  refine ⟨rfl, rfl, rfl, rfl, ?_⟩
  simp only [PassStep.order, PassStep.tending, List.cons_append, List.nil_append,
    List.flatMap_cons, List.flatMap_nil, List.append_nil, List.append_assoc]
  rfl

end

/-! ## What becomes of a pool -/

variable {s : RotationSettings} {now clock : Instant} {plan : Nat → Option Error}
  {draws : Nat → Draw} {n m : Nat} {w : World} {kind : PoolKind}

/-- How the two steps for a pool can end that ask the requests from `n` on and before `m`: `gone` are
    the keys that they have retired, and `new` those that they have created. -/
structure Maintained (s : RotationSettings) (now : Instant) (plan : Nat → Option Error)
    (draws : Nat → Draw) (clock : Instant) (n m : Nat) (kind : PoolKind)
    (pool later : Pool kind.Material) (gone new : List (StoredKey kind.Material))
    (retired created : Except Error Nat) : Prop where
  retirement : Retirement plan (cutoff now (maxAge s kind)) pool gone retired
  refill : ∃ result, Filling s plan draws clock n m
      (target s kind - (pool.retireAll (gone.map (·.id)) clock).shelf.usable.card)
      kind (pool.retireAll (gone.map (·.id)) clock) later new result
    ∧ created = result.map fun _ =>
      target s kind - (pool.retireAll (gone.map (·.id)) clock).shelf.usable.card

/-- The two steps for a pool change nothing but this pool. -/
theorem run_tending (s : RotationSettings) (now : Instant) (kind : PoolKind)
    (plan : Nat → Option Error) (draws : Nat → Draw) (n : Nat) (w : World) :
    let handler := World.planned plan draws
    ∃ m later gone new,
      stateAfter handler s now (PassStep.tending kind) (n, w) = (m, w.setPool kind later)
      ∧ Maintained s now plan draws w.clock n m kind (w.pool kind) later gone new
        (runStep handler s now (.retire kind) (n, w)).1
        (runStep handler s now (.refill kind) (runStep handler s now (.retire kind) (n, w)).2).1 := by
  intro handler
  obtain ⟨k, gone, retired, ran, retirement⟩ := run_retireAged s now kind plan draws n w
  obtain ⟨m, new, later, result, ran', filling⟩ := run_refill s kind plan draws k
    (w.setPool kind ((w.pool kind).retireAll (gone.map (·.id)) w.clock))
  have le := World.le_run_planned plan draws (retireAged s now kind).run n w
  rw [ran] at le
  rw [World.pool_setPool, World.setPool_setPool] at ran'
  rw [World.pool_setPool, World.clock_setPool] at filling
  have first : runStep handler s now (.retire kind) (n, w) = _ := ran
  have second : runStep handler s now (.refill kind) (k, _) = _ := ran'
  refine ⟨m, later, gone, new, ?_, ?_⟩
  · simp only [stateAfter, PassStep.tending, List.foldl_cons, List.foldl_nil, first, second]
  · simp only [first, second]
    exact ⟨retirement, result, filling.mono le m.le_refl, rfl⟩

/-- A pass changes nothing but the two pools, and tends to each of them. -/
theorem exists_maintained (s : RotationSettings) (now : Instant) (plan : Nat → Option Error)
    (draws : Nat → Draw) (w : World) :
    let result := resultOf (World.planned plan draws) s now (0, w)
    ∃ asked after, (pass s now).run (World.planned plan draws) (0, w)
        = (.ofResults result, asked, after)
      ∧ after.clock = w.clock ∧ after.ledger = w.ledger
      ∧ ∀ kind, ∃ gone new, Maintained s now plan draws w.clock 0 asked kind (w.pool kind)
        (after.pool kind) gone new (result (.retire kind)) (result (.refill kind)) := by
  intro result
  obtain ⟨m, signing, gone, new, ran, tended⟩ := run_tending s now .signing plan draws 0 w
  obtain ⟨asked, encryption, gone', new', ran', tended'⟩ := run_tending s now .encryption plan draws
    m (w.setPool .signing signing)
  obtain ⟨_, asks, -⟩ := tended'.refill
  refine ⟨asked, (w.setPool .signing signing).setPool .encryption encryption, ?_, by simp, by simp,
    ?_⟩
  · rw [run_pass, PassStep.order, stateAfter_append, ran, ran']
  · intro kind
    cases kind with
    | signing =>
      obtain ⟨filled, filling, created⟩ := tended.refill
      exact ⟨gone, new, tended.retirement, filled, filling.mono (Nat.zero_le _) asks.le, created⟩
    | encryption =>
      rw [← ran] at tended'
      obtain ⟨filled, filling, created⟩ := tended'.refill
      exact ⟨gone', new', tended'.retirement, filled, filling.mono (Nat.zero_le _) asked.le_refl,
        created⟩

/-- If a pass reports no error, both steps have succeeded for either pool. -/
theorem exists_maintained_of_success (s : RotationSettings) (now : Instant)
    (plan : Nat → Option Error) (draws : Nat → Draw) (w : World) :
    ∃ report asked after, (pass s now).run (World.planned plan draws) (0, w)
        = (report, asked, after)
      ∧ (report.errors = [] → ∀ kind, ∃ gone new retired created,
        Maintained s now plan draws w.clock 0 asked kind (w.pool kind) (after.pool kind) gone new
          (.ok retired) (.ok created)) := by
  obtain ⟨asked, after, ran, -, -, tended⟩ := exists_maintained s now plan draws w
  refine ⟨_, asked, after, ran, fun success kind => ?_⟩
  have ends := MaintenanceReport.errors_ofResults_eq_nil_iff.1 success
  obtain ⟨retired, ended⟩ := ends (.retire kind)
  obtain ⟨created, ended'⟩ := ends (.refill kind)
  obtain ⟨gone, new, tended⟩ := tended kind
  rw [ended, ended'] at tended
  exact ⟨gone, new, retired, created, tended⟩

namespace Maintained

variable {after : World} {gone new : List (StoredKey kind.Material)}
  {retired created : Except Error Nat}

section

variable (h : Maintained s now plan draws clock n m kind (w.pool kind) (after.pool kind) gone new retired
  created)

include h

theorem nodup_gone : (gone.map (·.id)).Nodup :=
  Pool.nodup_ids_of_sublist h.retirement.sublist

theorem gone_subset : (gone.map (·.id)).toFinset ⊆ (w.pool kind).shelf.usable := by
  intro id mem
  obtain ⟨key, inside, rfl⟩ := List.mem_map.1 (List.mem_toFinset.1 mem)
  obtain ⟨stored, fit⟩ := Pool.mem_keys_of_mem_recentUsable (h.retirement.sublist.subset inside)
  exact Pool.mem_usable.2 ⟨key, stored, fit, rfl⟩

/-- What the two steps make of the stock. -/
theorem shelf_eq : after.stock kind
      = ⟨(new.map (·.id)).toFinset ∪ (w.stock kind).known,
        (new.map (·.id)).toFinset ∪ ((w.stock kind).usable \ (gone.map (·.id)).toFinset)⟩ := by
  obtain ⟨result, filling, -⟩ := h.refill
  rw [World.stock_eq, World.stock_eq, filling.shelf, Pool.shelf_retireAll]

theorem disjoint_new : Disjoint (new.map (·.id)).toFinset (w.stock kind).known := by
  obtain ⟨result, filling, -⟩ := h.refill
  have apart := filling.disjoint
  rwa [Pool.shelf_retireAll, ← World.stock_eq] at apart

/-- The keys that have gone are those that the first step has retired. -/
theorem gone_eq : w.stock.gone after.stock kind = (gone.map (·.id)).toFinset := by
  have usable := h.gone_subset
  rw [← World.stock_eq] at usable
  ext id
  rw [Stock.gone, Shelf.retired, h.shelf_eq]
  simp only [Finset.mem_inter, Finset.mem_sdiff, Finset.mem_union, not_or, not_and, not_not]
  constructor
  · rintro ⟨fit, -, -, listed⟩
    exact listed fit
  · intro mem
    have known := World.usable_subset w kind (usable mem)
    refine ⟨usable mem, .inr known, fun isNew => ?_, fun _ => mem⟩
    exact Finset.disjoint_left.1 h.disjoint_new isNew known

/-- The keys that were added are those that the second step has created. -/
theorem added_eq : w.stock.added after.stock kind = (new.map (·.id)).toFinset := by
  rw [Stock.added, h.shelf_eq]
  exact Finset.union_sdiff_cancel_right h.disjoint_new

theorem card_gone : (w.stock.gone after.stock kind).card = gone.length := by
  rw [h.gone_eq, List.toFinset_card_of_nodup h.nodup_gone, List.length_map]

theorem card_added : (w.stock.added after.stock kind).card = new.length := by
  obtain ⟨result, filling, -⟩ := h.refill
  rw [h.added_eq, filling.card_new]

end

/-- A step that does not fail reports what it has done. -/
theorem retired_eq {count : Nat} (h : Maintained s now plan draws clock n m kind (w.pool kind)
    (after.pool kind) gone new (.ok count) created) :
    count = (w.stock.gone after.stock kind).card := by
  obtain ⟨-, -, -, counted⟩ := h.retirement.exists_limit
  rw [h.card_gone, counted]

/-- A refill that succeeds creates all that is missing. -/
theorem missing_eq {count : Nat} {pool later : Pool kind.Material} (h : Maintained s now plan draws
      clock n m kind pool later gone new retired (.ok count)) :
    new.length = target s kind - (pool.retireAll (gone.map (·.id)) clock).shelf.usable.card
      ∧ count = new.length := by
  obtain ⟨result, filling, counts⟩ := h.refill
  cases filling.ends with
  | complete all => exact ⟨all, (Except.ok.inj counts).trans all.symm⟩
  | broken => cases counts
  | blocked => cases counts

theorem created_eq {count : Nat} (h : Maintained s now plan draws clock n m kind (w.pool kind)
    (after.pool kind) gone new retired (.ok count)) :
    count = (w.stock.added after.stock kind).card := by
  rw [h.card_added]
  exact h.missing_eq.2

/-- Both steps succeed if the limit is in range, no call is planned to fail, and nothing stands in the
    way of keys that are missing. -/
theorem eq_of_calm {limit : Instant} (h : Maintained s now plan draws clock n m kind (w.pool kind)
      (after.pool kind) gone new retired created)
    (calm : ∀ i, plan i = none) (inside : cutoff now (maxAge s kind) = .ok limit)
    (clear : ((w.pool kind).pruned limit clock).shelf.usable.card < target s kind →
      ¬ Obstacle s draws kind ((w.pool kind).pruned limit clock) n m) :
    gone = (w.pool kind).aged limit ∧ retired = .ok gone.length
      ∧ new.length = target s kind - ((w.pool kind).pruned limit clock).shelf.usable.card
      ∧ created = .ok new.length := by
  obtain ⟨rfl, done⟩ := h.retirement.eq_of_calm calm inside
  obtain ⟨result, filling, counts⟩ := h.refill
  obtain ⟨same, rfl⟩ := filling.ends.eq_of_calm calm fun missing =>
    clear (Nat.lt_of_sub_pos (Nat.zero_lt_of_lt missing))
  rw [← same] at counts
  exact ⟨rfl, done, same, counts⟩

end Maintained

/-- A pass reports no error if both limits are in range, no call is planned to fail, and nothing stands
    in the way of keys that are missing after the retirement. -/
theorem exists_maintained_of_calm (s : RotationSettings) (now : Instant) (limit : PoolKind → Instant)
    (inside : ∀ kind, cutoff now (maxAge s kind) = .ok (limit kind)) (draws : Nat → Draw)
    (w : World) :
    ∃ report asked after, (pass s now).run (World.planned (fun _ => none) draws) (0, w)
        = (report, asked, after)
      ∧ after.clock = w.clock ∧ after.ledger = w.ledger
      ∧ ((∀ kind, ((w.pool kind).pruned (limit kind) w.clock).shelf.usable.card < target s kind →
          ¬ Obstacle s draws kind ((w.pool kind).pruned (limit kind) w.clock) 0 asked) →
        report.errors = [] ∧ ∀ kind, ∃ new,
          Maintained s now (fun _ => none) draws w.clock 0 asked kind (w.pool kind) (after.pool kind)
            ((w.pool kind).aged (limit kind)) new (.ok (report.count (.retire kind)))
            (.ok (report.count (.refill kind)))
          ∧ new.length
            = target s kind - ((w.pool kind).pruned (limit kind) w.clock).shelf.usable.card) := by
  obtain ⟨asked, after, ran, clock, ledger, tended⟩ := exists_maintained s now (fun _ => none) draws w
  refine ⟨_, asked, after, ran, clock, ledger, fun clear => ?_⟩
  have ends : ∀ kind, ∃ new retired created,
      Maintained s now (fun _ => none) draws w.clock 0 asked kind (w.pool kind) (after.pool kind)
        ((w.pool kind).aged (limit kind)) new (.ok retired) (.ok created)
      ∧ new.length = target s kind - ((w.pool kind).pruned (limit kind) w.clock).shelf.usable.card
      ∧ resultOf (World.planned (fun _ => none) draws) s now (0, w) (.retire kind) = .ok retired
      ∧ resultOf (World.planned (fun _ => none) draws) s now (0, w) (.refill kind)
        = .ok created := by
    intro kind
    obtain ⟨gone, new, tended⟩ := tended kind
    obtain ⟨rfl, retired, size, created⟩ :=
      tended.eq_of_calm (fun _ => rfl) (inside kind) (clear kind)
    rw [retired, created] at tended
    exact ⟨new, _, _, tended, size, retired, created⟩
  refine ⟨MaintenanceReport.errors_ofResults_eq_nil_iff.2 fun step => ?_, fun kind => ?_⟩
  · cases step with
    | retire kind =>
      obtain ⟨-, retired, -, -, -, ended, -⟩ := ends kind
      exact ⟨retired, ended⟩
    | refill kind =>
      obtain ⟨-, -, created, -, -, -, ended⟩ := ends kind
      exact ⟨created, ended⟩
  · obtain ⟨new, retired, created, tended, size, ended, ended'⟩ := ends kind
    rw [MaintenanceReport.count_ofResults, MaintenanceReport.count_ofResults, ended, ended']
    exact ⟨new, tended, size⟩

end Maintenance

end Latchkey

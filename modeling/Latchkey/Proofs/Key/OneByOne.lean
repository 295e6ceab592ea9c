import Latchkey.Proofs.Key.Pass
import Latchkey.Proofs.Session.Overlap

set_option autoImplicit false

/-! # A pass as four calls

The steps of a pass share nothing but the world. Each acts on it as if it were called alone
(`Maintenance.alone`), and gives the refill lock back however it ends (`PassStep.returns_lock`). So a
pass is the same as its four steps called one by one, and a step that fails is to the others no more
than what it has left (`Maintenance.runs_steps_one_by_one`). -/

namespace Latchkey

/-- A program that is run later on meets what is planned and drawn for later requests. -/
theorem World.run_planned_add {α : Type} (plan : Nat → Option Error) (draws : Nat → Draw)
    (p : Program Request Request.Answer α) (n k : Nat) (w : World) :
    p.run (World.planned plan draws) (n + k, w)
      = Prod.map id (Prod.map (n + ·) id)
        (p.run (World.planned (fun i => plan (n + i)) fun i => draws (n + i)) (k, w)) := by
  induction p generalizing k w with
  | done a => rfl
  | ask request next ih => exact ih _ (k + 1) _

/-! ## The refill lock -/

/-- Whether a request has nothing to do with the refill lock. -/
def Request.sparesLock : Request → Bool
  | .lockRefill | .unlockRefill => false
  | _ => true

/-- Who holds the refill lock after a caller has asked all of these requests, unless one of them has
    to wait. -/
def Request.passAll? {ι : Type} (i : ι) (requests : List Request) (holder : Option ι) :
    Option (Option ι) :=
  requests.foldlM (fun holder request => request.pass? i holder) holder

theorem Request.passAll?_append {ι : Type} (i : ι) (first rest : List Request) (holder : Option ι) :
    Request.passAll? i (first ++ rest) holder
      = (Request.passAll? i first holder).bind (Request.passAll? i rest) :=
  List.foldlM_append

theorem Request.pass?_of_sparesLock {ι : Type} {i : ι} {request : Request} {holder : Option ι}
    (h : request.sparesLock = true) : request.pass? i holder = some holder := by
  cases request with
  | lockRefill | unlockRefill => cases h
  | _ => rfl

namespace Program

variable {α β σ : Type}

theorem asked_bind {R : Type} {A : R → Type} (handler : Handler R A σ) (p : Program R A α)
    (f : α → Program R A β) (st : σ) : (p.bind f).asked handler st
      = p.asked handler st ++ (f (p.run handler st).1).asked handler (p.run handler st).2 := by
  induction p generalizing st with
  | done a => rfl
  | ask request next ih => exact congrArg (request :: ·) (ih _ _)

/-- A program that never asks for the refill lock, nor gives it back. -/
def SparesLock : Program Request Request.Answer α → Prop
  | .done _ => True
  | .ask request next => request.sparesLock = true ∧ ∀ answer, SparesLock (next answer)

variable {p : Program Request Request.Answer α} {f : α → Program Request Request.Answer β}

theorem SparesLock.bind (h : p.SparesLock) (next : ∀ a, (f a).SparesLock) :
    (p.bind f).SparesLock := by
  induction p with
  | done a => exact next a
  | ask request rest ih => exact ⟨h.1, fun answer => ih answer (h.2 answer)⟩

/-- Such a program leaves the lock to whoever holds it. -/
theorem SparesLock.passAll?_asked (h : p.SparesLock)
    (handler : Handler Request Request.Answer σ) (st : σ) {ι : Type} (i : ι) (holder : Option ι) :
    Request.passAll? i (p.asked handler st) holder = some holder := by
  induction p generalizing st with
  | done a => rfl
  | ask request next ih =>
    rw [asked, Request.passAll?, List.foldlM_cons, Request.pass?_of_sparesLock h.1]
    exact ih _ (h.2 _) _

end Program

namespace Maintenance

variable {α β μ σ : Type} {kind : PoolKind}

theorem sparesLock_bind {first : Operation α} {rest : α → Operation β} (h : first.run.SparesLock)
    (next : ∀ a, (rest a).run.SparesLock) : (first >>= rest).run.SparesLock := by
  rw [ExceptT.run_bind]
  refine h.bind fun result => ?_
  cases result with
  | error e => trivial
  | ok a => exact next a

theorem sparesLock_keys (call : KeyCall kind.Material) :
    (Operation.keys kind call).run.SparesLock := by
  cases kind <;> exact ⟨rfl, fun _ => trivial⟩

theorem sparesLock_retireEach {retire : Uuid → Operation Bool}
    (h : ∀ id, (retire id).run.SparesLock) (keys : List (StoredKey μ)) :
    (retireEach retire keys).run.SparesLock := by
  induction keys with
  | nil => trivial
  | cons key rest ih => exact sparesLock_bind (h key.id) fun _ => sparesLock_bind ih fun _ => trivial

theorem sparesLock_newKey (s : RotationSettings) (kind : PoolKind) :
    (newKey s kind).run.SparesLock := by
  cases kind with
  | signing => exact ⟨rfl, fun _ => ⟨rfl, fun _ => trivial⟩⟩
  | encryption =>
    refine sparesLock_bind ?_ fun material => ⟨rfl, fun _ => trivial⟩
    rw [newKeyPair]
    split
    · trivial
    · exact ⟨rfl, fun _ => trivial⟩

theorem sparesLock_createKeys (s : RotationSettings) (kind : PoolKind) (missing : Nat) :
    (createKeys s kind missing).run.SparesLock := by
  induction missing with
  | zero => trivial
  | succ missing ih => exact sparesLock_bind (sparesLock_newKey s kind) fun _ => ih

/-- An operation takes the lock that nobody holds, and gives it back whether it fails or not. -/
theorem passAll?_refilling {operation : Operation α} (h : operation.run.SparesLock)
    (handler : Program.Handler Request Request.Answer σ) (st : σ) {ι : Type} (i : ι) :
    Request.passAll? i ((Operation.refilling operation).run.asked handler st) none
      = some none := by
  have asks : (Operation.refilling operation).run.asked handler st
      = [.lockRefill] ++ operation.run.asked handler (handler .lockRefill st).2
        ++ [.unlockRefill] := by
    simp only [Operation.refilling, Operation.ask, Program.request, Program.ask_bind,
      Program.done_bind, ExceptT.run_mk, Program.asked, Program.asked_bind]
    rfl
  have taken : Request.passAll? i [.lockRefill] none = some (some i) := rfl
  rw [asks, Request.passAll?_append, Request.passAll?_append, taken, Option.bind_some,
    h.passAll?_asked, Option.bind_some]
  rfl

end Maintenance

/-- No step has to wait for the refill lock if nobody holds it, and then nobody holds it after the
    step, however that has ended. -/
theorem PassStep.returns_lock {σ ι : Type} (s : RotationSettings) (now : Instant) (step : PassStep)
    (handler : Program.Handler Request Request.Answer σ) (st : σ) (i : ι) :
    Request.passAll? i ((step.operation s now).run.asked handler st) none = some none := by
  cases step with
  | retire kind =>
    refine Program.SparesLock.passAll?_asked ?_ handler st i none
    rw [PassStep.operation, Maintenance.retireAged_eq]
    refine Maintenance.sparesLock_bind trivial fun limit => ?_
    refine Maintenance.sparesLock_bind (Maintenance.sparesLock_keys _) fun keys => ?_
    exact Maintenance.sparesLock_retireEach (fun id => Maintenance.sparesLock_keys _) _
  | refill kind =>
    rw [PassStep.operation, Maintenance.refill_eq]
    refine Maintenance.passAll?_refilling ?_ handler st i
    refine Maintenance.sparesLock_bind (Maintenance.sparesLock_keys _) fun usable => ?_
    exact Maintenance.sparesLock_bind (Maintenance.sparesLock_createKeys s kind _) fun _ => trivial

namespace Maintenance

/-! ## Steps called alone -/

/-- How a step ends that is called alone on a world, how many requests it has asked, and the world
    after it. -/
def alone (s : RotationSettings) (now : Instant) (plan : Nat → Option Error) (draws : Nat → Draw)
    (step : PassStep) (w : World) : Except Error Nat × Nat × World :=
  (step.operation s now).run.run (World.planned plan draws) (0, w)

/-- Steps that are called alone, one by one, each on the world that the one before has left: how each
    of them ends, and the world after the last. What is planned and drawn goes on where the step
    before has stopped. -/
def oneByOne (s : RotationSettings) (now : Instant) :
    List PassStep → (Nat → Option Error) → (Nat → Draw) → World →
      List (PassStep × Except Error Nat) × World
  | [], _, _, w => ([], w)
  | step :: rest, plan, draws, w =>
    let (result, asked, later) := alone s now plan draws step w
    let (results, last) := oneByOne s now rest (fun i => plan (asked + i))
      (fun i => draws (asked + i)) later
    ((step, result) :: results, last)

/-- The steps that have failed, and with what error. -/
def failures (results : List (PassStep × Except Error Nat)) : List (PassStep × Error) :=
  results.filterMap fun (step, result) => match result with
    | .ok _ => none
    | .error e => some (step, e)

/-- How steps end of which each is run on what the one before has left. -/
def resultsOf {σ : Type} (handler : Program.Handler Request Request.Answer σ)
    (s : RotationSettings) (now : Instant) : List PassStep → σ → List (PassStep × Except Error Nat)
  | [], _ => []
  | step :: rest, st =>
    (step, (runStep handler s now step st).1)
      :: resultsOf handler s now rest (runStep handler s now step st).2

theorem oneByOne_eq (s : RotationSettings) (now : Instant) (steps : List PassStep)
    (plan : Nat → Option Error) (draws : Nat → Draw) (n : Nat) (w : World) :
    oneByOne s now steps (fun i => plan (n + i)) (fun i => draws (n + i)) w
      = (resultsOf (World.planned plan draws) s now steps (n, w),
        (stateAfter (World.planned plan draws) s now steps (n, w)).2) := by
  induction steps generalizing n w with
  | nil => rfl
  | cons step rest ih =>
    -- The first request of the step, which it asks alone, is request `n` of all.
    have moved := World.run_planned_add plan draws (step.operation s now).run n 0 w
    rw [Nat.add_zero] at moved
    have first : runStep (World.planned plan draws) s now step (n, w) = _ := moved
    rw [oneByOne, resultsOf, stateAfter, List.foldl_cons, first]
    simp only [alone, ← Nat.add_assoc, ih]
    rfl

theorem resultsOf_order {σ : Type} (handler : Program.Handler Request Request.Answer σ)
    (s : RotationSettings) (now : Instant) (st : σ) :
    resultsOf handler s now PassStep.order st
      = PassStep.order.map fun step => (step, resultOf handler s now st step) :=
  rfl

theorem map_line_failures (result : PassStep → Except Error Nat) (steps : List PassStep) :
    (failures (steps.map fun step => (step, result step))).map (fun (step, e) => step.line e)
      = steps.flatMap fun step => step.lines (result step) := by
  induction steps with
  | nil => rfl
  | cons step rest ih =>
    rw [List.flatMap_cons, ← ih, failures, List.map_cons]
    cases result step <;> rfl

/-- A pass is its four steps called alone, one by one, whichever calls fail: it leaves the world that
    they leave, and reports of each step how it has ended. Its errors are one line for each step that
    has failed, in the order of the steps, and the pass succeeds if and only if there is none. No
    step finds the refill lock taken by an earlier one. -/
theorem runs_steps_one_by_one (s : RotationSettings) (now : Instant) (plan : Nat → Option Error)
    (draws : Nat → Draw) (w : World) :
    let (results, last) := oneByOne s now PassStep.order plan draws w
    let (report, _, after) := (pass s now).run (World.planned plan draws) (0, w)
    after = last ∧ results.map (·.1) = PassStep.order
      ∧ (∀ step result, (step, result) ∈ results → report.count step = counted result)
      ∧ report.errors = (failures results).map (fun (step, e) => step.line e)
      ∧ (report.isSuccess = true ↔ ∀ p ∈ results, p.2.isOk = true)
      ∧ (∀ answer, report.toResult = .ok answer
        ↔ answer = report ∧ ∀ p ∈ results, p.2.isOk = true)
      ∧ ∀ (step : PassStep) (st : Nat × World), Request.passAll? step
        ((step.operation s now).run.asked (World.planned plan draws) st) none = some none := by
  have steps := oneByOne_eq s now PassStep.order plan draws 0 w
  simp only [Nat.zero_add] at steps
  rw [steps, resultsOf_order, run_pass]
  generalize resultOf (World.planned plan draws) s now (0, w) = result
  have succeeds : (MaintenanceReport.ofResults result).isSuccess = true
      ↔ ∀ p ∈ PassStep.order.map fun step => (step, result step), p.2.isOk = true := by
    rw [MaintenanceReport.isSuccess, List.isEmpty_iff,
      MaintenanceReport.errors_ofResults_eq_nil_iff, List.forall_mem_map]
    refine forall_congr' fun step => ?_
    cases result step <;> simp [Except.isOk, Except.toBool]
  refine ⟨rfl, rfl, fun step ended mem => ?_, (map_line_failures result PassStep.order).symm,
    succeeds, fun answer => ?_, fun step st => step.returns_lock s now _ st step⟩
  · obtain ⟨_, -, same⟩ := List.mem_map.1 mem
    obtain ⟨rfl, rfl⟩ := Prod.mk.inj same
    exact MaintenanceReport.count_ofResults result _
  · rw [← succeeds, MaintenanceReport.toResult]
    cases (MaintenanceReport.ofResults result).isSuccess <;> simp [eq_comm]

/-- An age that is out of range fails its own step only: both refills create what is missing. -/
example :
    let s : RotationSettings := { minUsableKeys := 1, maxKeyAgeDays := 9223372036854775807 }
    let w := World.empty ⟨1700000000, 0⟩
    let draws : Nat → Draw := fun i =>
      ⟨.ofNat i, [], fun _ => .ok ⟨"public", "private", "AQAB", "AQAB"⟩⟩
    let (report, _, _) := (pass s w.clock).run (World.planned (fun _ => none) draws) (0, w)
    report = ⟨0, 1, 0, 1, ["Signing key retirement error: Internal error: key age of "
      ++ "9223372036854775807 days is out of range"]⟩ := by
  decide

end Maintenance

end Latchkey

import Latchkey.Proofs.Key.Pass

set_option autoImplicit false

/-! # What a pass reports

A pass reports of every step how many keys it has retired or created. A step that fails has reported
nothing by then, so it counts as zero, whatever it had done before it failed; all other counts are
those of the keys that are gone or new (`Maintenance.report_counts_unless_failed`). -/

namespace Latchkey

/-- How many keys a step has to do with that are gone, or new, from one stock to another. -/
def PassStep.effect (before after : Stock) : PassStep → Nat
  | .retire kind => (before.gone after kind).card
  | .refill kind => (before.added after kind).card

namespace Maintenance

/-- Whichever calls fail in a pass, its report has a line for each step that fails, in their order.
    The count of a step that does not fail is the number of keys that the pass has retired, or
    created, in its pool; the count of a step that fails is zero. So the counts are those numbers
    if and only if no step fails after it has done something. -/
theorem report_counts_unless_failed (s : RotationSettings) (now : Instant)
    (plan : Nat → Option Error) (draws : Nat → Draw) (w : World) :
    let result := resultOf (World.planned plan draws) s now (0, w)
    let (report, _, after) := (pass s now).run (World.planned plan draws) (0, w)
    report.errors = (PassStep.order.flatMap fun step => step.lines (result step))
      ∧ (∀ step, report.count step
        = if (result step).isOk then step.effect w.stock after.stock else 0)
      ∧ ((∀ step, report.count step = step.effect w.stock after.stock)
        ↔ ∀ step e, result step = .error e → step.effect w.stock after.stock = 0) := by
  intro result
  obtain ⟨asked, after, ran, -, -, tended⟩ := exists_maintained s now plan draws w
  have counts : ∀ step, (MaintenanceReport.ofResults result).count step
      = if (result step).isOk then step.effect w.stock after.stock else 0 := by
    intro step
    rw [MaintenanceReport.count_ofResults]
    cases ends : result step with
    | error e => rfl
    | ok count =>
      cases step with
      | retire kind =>
        obtain ⟨gone, new, tended⟩ := tended kind
        rw [show resultOf _ s now (0, w) (.retire kind) = _ from ends] at tended
        exact tended.retired_eq
      | refill kind =>
        obtain ⟨gone, new, tended⟩ := tended kind
        rw [show resultOf _ s now (0, w) (.refill kind) = _ from ends] at tended
        exact tended.created_eq
  rw [ran]
  refine ⟨rfl, counts, forall_congr' fun step => ?_⟩
  rw [counts]
  cases result step <;> simp [Except.isOk, Except.toBool, eq_comm]

/-- Two signing keys are too old, and the second retirement fails: one key is retired, and the report
    says that none is. -/
theorem failed_step_undercounts :
    let old (n : Nat) : SigningKey := ⟨.ofNat n, ⟨"private", "public"⟩, ⟨1600000000, 0⟩, none⟩
    let fresh : EncryptionKey :=
      ⟨.ofNat 4, ⟨"public", "private", "AQAB", "AQAB"⟩, ⟨1700000000, 0⟩, none⟩
    let w : World := ⟨⟨1700000000, 0⟩, ⟨[old 1, old 2], by decide⟩, ⟨[fresh], by decide⟩, .empty⟩
    let draws : Nat → Draw := fun _ => ⟨.zero, [], fun _ => .error .noUsableKey⟩
    let plan : Nat → Option Error := fun n => if n = 2 then some (.storage "disk full") else none
    let s : RotationSettings := { minUsableKeys := 0 }
    let (report, _, after) := (pass s w.clock).run (World.planned plan draws) (0, w)
    report = ⟨0, 0, 0, 0, ["Signing key retirement error: Storage error: disk full"]⟩
      ∧ w.stock.gone after.stock .signing = {.ofNat 2} := by
  decide

end Maintenance

end Latchkey

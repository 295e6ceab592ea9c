import Latchkey.Proofs.Session.Call
import Latchkey.Proofs.Session.Presented

set_option autoImplicit false

/-! # Calls that fail change nothing

Any request of a call may be planned to fail. Whatever the plan, a call that answers with a failure
leaves the ledger as it was, and no call ever writes to the signing keys
(`FlowCall.failure_keeps_ledger`). -/

namespace Latchkey

/-- The requests that a program asks while it runs. -/
def Program.asked {R : Type} {A : R → Type} {α σ : Type} (handler : Handler R A σ) :
    Program R A α → σ → List R
  | .done _, _ => []
  | .ask r next, s => r :: asked handler (next (handler r s).1) (handler r s).2

/-- Whether a request changes the signing keys. -/
def Request.writesSigning : Request → Bool
  | .signing (.create _) | .signing (.retire _) => true
  | _ => false

/-- A world that counts the requests it answers. The plan says which of them fail, and with what
    error, where they are calls of a store. -/
def World.planned (plan : Nat → Option Error) (draws : Nat → Draw) :
    Program.Handler Request Request.Answer (Nat × World) := fun request (n, w) =>
  let (answer, w) := w.respond (plan n) (draws n) request
  (answer, (n + 1, w))

/-- Where nothing is planned to fail, the world answers as it does by itself. -/
theorem World.run_planned_none {α : Type} (p : Program Request Request.Answer α) (draw : Draw)
    (n : Nat) (w : World) :
    (p.run (World.planned (fun _ => none) fun _ => draw) (n, w)).1
      = (p.run (World.answer draw) w).1 := by
  induction p generalizing n w with
  | done result => rfl
  | ask request next ih => exact ih _ (n + 1) _

namespace FlowCall

variable {flow : RefreshFlow} {call : FlowCall}

theorem Pending.writesSigning_eq_false {request : Request} {ledger : Ledger}
    {next : request.Answer → Program Request Request.Answer (Except Error call.Value)}
    (h : call.Pending flow (.ask request next) ledger) : request.writesSigning = false := by
  match request, next, h with
  | .signing (.read _), _, _ => rfl
  | .signing (.recentUsable _), _, _ => rfl
  | .ledger _, _, _ => rfl

/-- What is left of a call runs to its end like this: all the world but the ledger stays, the ledger
    too if the call fails, and nothing asks to change the signing keys. -/
theorem Pending.run {p : Program Request Request.Answer (Except Error call.Value)} {w : World}
    (h : call.Pending flow p w.ledger) (plan : Nat → Option Error) (draws : Nat → Draw) (n : Nat) :
    let (result, _, after) := p.run (World.planned plan draws) (n, w)
    (∀ e, result = .error e → after.ledger = w.ledger)
      ∧ after = { w with ledger := after.ledger }
      ∧ ∀ r ∈ p.asked (World.planned plan draws) (n, w), r.writesSigning = false := by
  induction p generalizing n w with
  | done result => exact ⟨fun _ _ => rfl, rfl, by simp [Program.asked]⟩
  | ask request next ih =>
    have quiet := h.writesSigning_eq_false
    simp only [Program.run, Program.asked, World.planned]
    rcases h.respond (plan n) (draws n) with ⟨same, rest⟩ | ⟨write, finish, writes, ends, moved⟩
    · rw [same]
      obtain ⟨kept, others, later⟩ := ih _ rest (n + 1)
      exact ⟨kept, others, List.forall_mem_cons.2 ⟨quiet, later⟩⟩
    · rw [ends, moved]
      simp only [Program.run, Program.asked]
      refine ⟨fun e failed => ?_, trivial, List.forall_mem_cons.2 ⟨quiet, by simp⟩⟩
      exact Ledger.respond_of_error (writes.error_of_finish failed)

/-- A call that fails leaves the ledger exactly as it was, and no call writes to the signing keys,
    whichever requests are planned to fail. -/
theorem failure_keeps_ledger (flow : RefreshFlow) (call : FlowCall) (plan : Nat → Option Error)
    (draws : Nat → Draw) (w : World) :
    let program := (call.operation flow).run
    let (result, _, after) := program.run (World.planned plan draws) (0, w)
    (∀ e, result = .error e → after.ledger = w.ledger) ∧ after.signing = w.signing
      ∧ ∀ r ∈ program.asked (World.planned plan draws) (0, w), r.writesSigning = false := by
  have ⟨kept, others, quiet⟩ := (pending_operation flow call w.ledger).run plan draws 0
  exact ⟨kept, by rw [others], quiet⟩

/-- A stored token is renewed, and all goes well until its successor is to be inserted. Its record
    is still valid. -/
theorem failed_insert_keeps_ledger :
    ∃ first : IssuedToken,
      let w := World.withKey .zero { Ledger.oneToken with failInserts := true }
      let call := FlowCall.renew ⟨⟨60, 5⟩, .ofNat 3, 0⟩ first.token
      let (result, _, after) := (call.operation (.sharing [])).run.run
        (World.planned (fun _ => none) fun _ => .none) (0, w)
      result = .error (.storage "injected insert failure") ∧ after.ledger = w.ledger
        ∧ after.ledger.hasValid (.ofNat 1) = true := by
  obtain ⟨first, -, -, good⟩ := RefreshFlow.exists_first ⟨Claims.shaped_nil, trivial⟩
  refine ⟨first, ?_⟩
  intro w call
  obtain ⟨-, -, presents⟩ := good ⟨60, 5⟩ (by decide) w.ledger
  have can : (RefreshFlow.sharing []).CanRenew w first.token ⟨⟨60, 5⟩, .ofNat 3, 0⟩
      ⟨(RefreshFlow.sharing []).codec.claimsOf [] ⟨0, 0⟩ first, .ofNat 2, .ofNat 1⟩ :=
    ⟨presents, ⟨_, .head _, rfl⟩,
      fun key _ _ => RefreshFlow.exists_issue_sharing _ _ _ _ _ (by decide), rfl⟩
  obtain ⟨second, signed⟩ := can.exists_signed (by decide)
  have failed : ((call.operation (.sharing [])).run.run
      (World.planned (fun _ => none) fun _ => .none) (0, w)).1
        = .error (.storage "injected insert failure") := by
    rw [World.run_planned_none]
    simp only [call, operation, RefreshFlow.run_renew_alone, can.presents, signed]
    rfl
  have kept := (failure_keeps_ledger _ call _ _ w).1 _ failed
  exact ⟨failed, kept, by rw [kept]; rfl⟩

end FlowCall

end Latchkey

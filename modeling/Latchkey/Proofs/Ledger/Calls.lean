import Latchkey.Proofs.Ledger.Aging
import Latchkey.Proofs.Time.Instant
import Latchkey.Session.Flow

set_option autoImplicit false

/-! # Everything that the ledger is asked

Besides the calls that are requests of their own, a user's valid records can be counted, which is
done by listing the user's records. `StoreCall` puts both under one roof, and `World.run_operation`
says what they do to a world. -/

namespace Latchkey

/-- Anything that the ledger can be asked for. -/
inductive StoreCall
  | ledger (call : LedgerCall)
  /-- How many valid records a user has. -/
  | countValid (userId : Uuid)

namespace StoreCall

/-- What is answered. -/
abbrev Answer : StoreCall → Type
  | .ledger call => call.Answer
  | .countValid _ => Nat

/-- What a call does. -/
def operation : (call : StoreCall) → Operation call.Answer
  | .ledger call => Operation.ledger call
  | .countValid userId => Operation.countValid userId

end StoreCall

theorem LedgerRecord.pairwise_mergeSort (records : List LedgerRecord) :
    (records.mergeSort fun a b => b.createdAt ≤ a.createdAt).Pairwise
      fun a b => b.createdAt ≤ a.createdAt := by
  have sorted : (records.mergeSort fun a b => decide (b.createdAt ≤ a.createdAt)).Pairwise
      fun a b => decide (b.createdAt ≤ a.createdAt) = true :=
    List.pairwise_mergeSort
      (fun a b c le le' => by simpa using Instant.le_trans (by simpa using le') (by simpa using le))
      (fun a b => by simpa using Instant.le_total b.createdAt a.createdAt) _
  simpa using sorted

namespace Ledger

/-- The ledger, where inserts fail from now on or do not any more. -/
def failing (l : Ledger) (on : Bool) : Ledger :=
  { l with failInserts := on }

/-- The ledger's answer to anything that it can be asked for. -/
def serve (l : Ledger) : (call : StoreCall) → Except Error call.Answer × Ledger
  | .ledger call => l.answer call
  | .countValid userId => (.ok (l.validOf userId), l)

theorem le_serve (l : Ledger) (call : StoreCall) : l ≤ (l.serve call).2 := by
  cases call with
  | ledger call => exact l.le_answer call
  | countValid userId => exact l.le_refl

theorem pairwise_ofUser (l : Ledger) (userId : Uuid) :
    (l.ofUser userId).Pairwise fun a b => b.createdAt ≤ a.createdAt :=
  LedgerRecord.pairwise_mergeSort _

/-- The order in which records are listed does not matter to their number. -/
theorem countValid_ofUser (l : Ledger) (userId : Uuid) :
    (l.ofUser userId).countP LedgerRecord.isValid = l.validOf userId :=
  (List.mergeSort_perm _ _).countP_eq _

end Ledger

/-- A call that runs alone is the ledger's answer, and nothing else of the world changes. -/
theorem World.run_operation (draw : Draw) (w : World) (call : StoreCall) :
    call.operation.run.run (World.answer draw) w
      = ((w.ledger.serve call).1, { w with ledger := (w.ledger.serve call).2 }) := by
  cases call with
  | ledger call => rfl
  | countValid userId =>
    rw [Ledger.serve, ← Ledger.countValid_ofUser]
    rfl

end Latchkey

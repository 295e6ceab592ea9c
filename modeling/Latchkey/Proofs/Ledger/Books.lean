import Latchkey.Proofs.Ledger.Calls
import Latchkey.Proofs.Ledger.Spending
import Mathlib.Algebra.GroupWithZero.Nat

set_option autoImplicit false

/-! # The books of the ledger

Everything that is asked of the ledger in memory is entered into a book, with the answer. The
entries alone tell how many valid records a user has, and which records are listed for the user
(`World.books_balance`): every count and truth value that is answered stands for just that many
records that became valid or stopped being so. -/

namespace Latchkey

/-! ## Counting valid records -/

/-- Whether a record counts among the valid ones of a user. -/
def LedgerRecord.countsFor (userId : Uuid) (r : LedgerRecord) : Bool :=
  r.userId = userId && r.isValid

/-- No two records have the same identifier, so no more than one is counted for it. -/
theorem LedgerRecord.countP_id {records : List LedgerRecord}
    (distinct : (records.map (·.id)).Nodup) (p : LedgerRecord → Bool) (id : Uuid) :
    (records.countP fun r => p r && r.id = id)
      = ((records.find? fun r => r.id = id).any p).toNat := by
  induction records with
  | nil => rfl
  | cons first rest ih =>
    obtain ⟨other, distinct⟩ := List.nodup_cons.1 distinct
    rw [List.countP_cons, List.find?_cons]
    by_cases same : first.id = id
    · have none : (rest.countP fun r => p r && r.id = id) = 0 := by
        refine List.countP_eq_zero.2 fun r mem counts => other (List.mem_map.2 ⟨r, mem, ?_⟩)
        simp only [Bool.and_eq_true, decide_eq_true_eq] at counts
        exact counts.2.trans same.symm
      cases holds : p first <;> simp [same, none, holds]
    · simpa [same] using ih distinct

namespace Ledger

variable {l l' : Ledger} {id old userId : Uuid} {r : LedgerRecord}

/-- Whether the record of an identifier is there and belongs to a user. -/
def owns (l : Ledger) (userId id : Uuid) : Bool :=
  (l.find? id).any fun r => r.userId = userId

theorem validOf_eq (l : Ledger) (userId : Uuid) :
    l.validOf userId = l.records.countP (·.countsFor userId) := by
  simp [validOf, countValid, List.countP_filter, LedgerRecord.countsFor, Bool.and_comm]

theorem validOf_push (fresh : l.contains r.id = false) (userId : Uuid) :
    (l.push r fresh).validOf userId = l.validOf userId + (r.countsFor userId).toNat := by
  rw [validOf_eq, validOf_eq, push, List.countP_append, List.countP_singleton]
  cases r.countsFor userId <;> rfl

/-- Where records are invalidated, those that were valid do not count any more. -/
theorem validOf_invalidateWhere (l : Ledger) (p : LedgerRecord → Bool) (userId : Uuid) :
    (l.invalidateWhere p).validOf userId
        + (l.records.countP fun r => r.countsFor userId && p r)
      = l.validOf userId := by
  have left : (l.invalidateWhere p).validOf userId
      = l.records.countP fun r => r.countsFor userId && !p r := by
    rw [validOf_eq, invalidateWhere, List.countP_map]
    refine congrArg (List.countP · l.records) (funext fun r => ?_)
    cases holds : p r <;> simp [LedgerRecord.countsFor, holds]
  rw [left, validOf_eq, List.countP_eq_countP_filter_add l.records (·.countsFor userId) p,
    List.countP_filter, List.countP_filter, Nat.add_comm]

theorem invalidated_records_invalidateWhere (l : Ledger) (p : LedgerRecord → Bool) :
    (l.invalidateWhere p).records.map LedgerRecord.invalidated
      = l.records.map LedgerRecord.invalidated := by
  rw [invalidateWhere, List.map_map]
  refine List.map_congr_left fun r _ => ?_
  simp only [Function.comp_apply]
  split <;> rfl

theorem validOf_invalidate (l : Ledger) (id userId : Uuid) :
    (l.invalidate id).validOf userId + (l.hasValid id && l.owns userId id).toNat
      = l.validOf userId := by
  have one : (l.records.countP fun r => r.countsFor userId && r.id = id)
      = (l.hasValid id && l.owns userId id).toNat := by
    rw [LedgerRecord.countP_id l.distinct, hasValid, owns]
    show (Option.any _ (l.find? id)).toNat = _
    cases l.find? id with
    | none => rfl
    | some r => simp [LedgerRecord.countsFor, Bool.and_comm]
  rw [← one]
  exact l.validOf_invalidateWhere _ userId

theorem validOf_invalidateAll (l : Ledger) (userId other : Uuid) :
    (l.invalidateAll other).validOf userId + (if other = userId then l.validOf other else 0)
      = l.validOf userId := by
  have all : (l.records.countP fun r => r.countsFor userId && r.userId = other)
      = if other = userId then l.validOf other else 0 := by
    split
    · rename_i same
      rw [same, validOf_eq]
      refine congrArg (List.countP · l.records) (funext fun r => ?_)
      cases mine : decide (r.userId = userId) <;> simp [LedgerRecord.countsFor, mine]
    · rename_i different
      refine List.countP_eq_zero.2 fun r _ counts => different ?_
      simp only [LedgerRecord.countsFor, Bool.and_eq_true, decide_eq_true_eq] at counts
      exact counts.2.symm.trans counts.1.1
  rw [← all]
  exact l.validOf_invalidateWhere _ userId

theorem owns_push_of_ne (fresh : l.contains r.id = false) (other : r.id ≠ id) :
    (l.push r fresh).owns userId id = l.owns userId id := by
  rw [owns, find?_push, if_neg other, owns]

end Ledger

/-! ## Entries -/

/-- A call, the ledger on which it was made, and the answer. -/
structure LedgerEntry where
  before : Ledger
  call : StoreCall
  answer : Except Error call.Answer

namespace LedgerEntry

/-- The record that a call has stored. -/
@[simp] def stored? : LedgerEntry → Option LedgerRecord
  | ⟨_, .ledger (.create _), .ok r⟩ => some r
  | ⟨_, .ledger (.rotate _ _), .ok r⟩ => some r
  | _ => none

/-- Whether a call has stored a valid record of a user. -/
@[simp] def stores (userId : Uuid) (entry : LedgerEntry) : Bool :=
  entry.stored?.any (·.countsFor userId)

/-- Whether a call has exchanged a record of a user for a successor. -/
@[simp] def exchanges (userId : Uuid) : LedgerEntry → Bool
  | ⟨before, .ledger (.rotate old _), .ok _⟩ => before.owns userId old
  | _ => false

/-- Whether a call was told that it has invalidated a record of a user. -/
@[simp] def invalidates (userId : Uuid) : LedgerEntry → Bool
  | ⟨before, .ledger (.invalidate id), .ok true⟩ => before.owns userId id
  | _ => false

/-- How many records a call was told that it has invalidated, where it was for all of a user's. -/
@[simp] def cleared (userId : Uuid) : LedgerEntry → Nat
  | ⟨_, .ledger (.invalidateAll other), .ok count⟩ => if other = userId then count else 0
  | _ => 0

/-- The entry of a call that is made on a ledger. -/
@[simp] def made (l : Ledger) (call : StoreCall) : LedgerEntry :=
  ⟨l, call, (l.serve call).1⟩

end LedgerEntry

namespace Ledger

open LedgerEntry (made)

/-- The entry of a call accounts for what the call does to the number of a user's valid records. -/
theorem validOf_serve (l : Ledger) (call : StoreCall) (userId : Uuid) :
    (l.serve call).2.validOf userId + (((made l call).exchanges userId).toNat
        + ((made l call).invalidates userId).toNat + (made l call).cleared userId)
      = l.validOf userId + ((made l call).stores userId).toNat := by
  match call with
  | .ledger (.create r) =>
    cases created : l.create r with
    | error e => simp [serve, answer, created]
    | ok l' =>
      obtain ⟨-, fresh, rfl⟩ := create_eq_ok_iff.1 created
      simp [serve, answer, created, validOf_push]
  | .ledger (.rotate old s) =>
    cases rotated : l.rotate old s with
    | error e => simp [serve, answer, rotated]
    | ok l' =>
      obtain ⟨valid, -, fresh, rfl⟩ := rotate_eq_ok_iff.1 rotated
      have other : s.id ≠ old := by
        rintro rfl
        obtain ⟨r, found, -⟩ := hasValid_eq_true_iff.1 valid
        simp [contains_eq_false_iff.1 fresh] at found
      have left := (l.push s fresh).validOf_invalidate old userId
      rw [hasValid_push, if_neg other, valid, Bool.true_and, owns_push_of_ne fresh other,
        validOf_push] at left
      simpa [serve, answer, rotated] using left
  | .ledger (.invalidate id) =>
    have left := l.validOf_invalidate id userId
    cases valid : l.hasValid id <;> simpa [serve, answer, valid] using left
  | .ledger (.invalidateAll other) =>
    simpa [serve, answer] using l.validOf_invalidateAll userId other
  | .ledger (.find _) | .ledger (.ofUser _) | .countValid _ => rfl

/-- What a call stores is added to the records, and nothing else changes of them but whether they are
    valid. -/
theorem records_serve (l : Ledger) (call : StoreCall) :
    (l.serve call).2.records.map LedgerRecord.invalidated
      = l.records.map LedgerRecord.invalidated
        ++ (made l call).stored?.toList.map LedgerRecord.invalidated := by
  match call with
  | .ledger (.create r) =>
    cases created : l.create r with
    | error e => simp [serve, answer, created]
    | ok l' =>
      obtain ⟨-, fresh, rfl⟩ := create_eq_ok_iff.1 created
      simp [serve, answer, created, push]
  | .ledger (.rotate old s) =>
    cases rotated : l.rotate old s with
    | error e => simp [serve, answer, rotated]
    | ok l' =>
      obtain ⟨-, -, fresh, rfl⟩ := rotate_eq_ok_iff.1 rotated
      simp [serve, answer, rotated, invalidate, invalidated_records_invalidateWhere, push]
  | .ledger (.invalidate id) =>
    simpa [serve, answer, invalidate] using
      l.invalidated_records_invalidateWhere fun r => r.id = id
  | .ledger (.invalidateAll userId) =>
    simpa [serve, answer, invalidateAll] using
      l.invalidated_records_invalidateWhere fun r => r.userId = userId
  | .ledger (.find _) | .ledger (.ofUser _) | .countValid _ =>
    simp [serve, answer]

end Ledger

/-! ## Books -/

/-- What is done to a ledger: something is asked of it, or inserts are made to fail from then on or
    are not any more. -/
inductive LedgerAction
  | ask (call : StoreCall)
  | failInserts (on : Bool)

namespace World

variable {draw : Draw} {w : World}

/-- The world after something is done to its ledger. -/
def act (draw : Draw) (w : World) : LedgerAction → World
  | .ask call => (call.operation.run.run (answer draw) w).2
  | .failInserts on => { w with ledger := w.ledger.failing on }

/-- The world after any number of actions. -/
def acted (draw : Draw) (w : World) (actions : List LedgerAction) : World :=
  actions.foldl (act draw) w

/-- The entry of an action, if that asks something. -/
def entryFor? (draw : Draw) (w : World) : LedgerAction → Option LedgerEntry
  | .ask call => some ⟨w.ledger, call, (call.operation.run.run (answer draw) w).1⟩
  | .failInserts _ => none

/-- The entries of actions, one after the other. -/
def book (draw : Draw) : World → List LedgerAction → List LedgerEntry
  | _, [] => []
  | w, action :: rest => (w.entryFor? draw action).toList ++ book draw (w.act draw action) rest

theorem entryFor?_ask (draw : Draw) (w : World) (call : StoreCall) :
    w.entryFor? draw (.ask call) = some (.made w.ledger call) := by
  rw [entryFor?, run_operation]
  rfl

theorem ledger_act_ask (draw : Draw) (w : World) (call : StoreCall) :
    (w.act draw (.ask call)).ledger = (w.ledger.serve call).2 := by
  rw [act, run_operation]

/-- The book accounts for what becomes of the number of a user's valid records. -/
theorem validOf_acted (draw : Draw) (w : World) (actions : List LedgerAction) (userId : Uuid) :
    (w.acted draw actions).ledger.validOf userId
        + ((w.book draw actions).countP (·.exchanges userId)
          + (w.book draw actions).countP (·.invalidates userId)
          + ((w.book draw actions).map (·.cleared userId)).sum)
      = w.ledger.validOf userId + (w.book draw actions).countP (·.stores userId) := by
  induction actions generalizing w with
  | nil => rfl
  | cons action rest ih =>
    have later := ih (w.act draw action)
    rw [acted, List.foldl_cons, ← acted, book]
    cases action with
    | failInserts on => exact later
    | ask call =>
      have now := w.ledger.validOf_serve call userId
      rw [ledger_act_ask] at later
      rw [entryFor?_ask, Option.toList_some, List.singleton_append]
      simp only [List.countP_cons, List.map_cons, List.sum_cons]
      have toNat_eq (b : Bool) : b.toNat = if b then 1 else 0 := by cases b <;> rfl
      simp only [toNat_eq] at now
      omega

/-- The records are those that the entries have stored, but for whether they are valid. -/
theorem records_acted (draw : Draw) (w : World) (actions : List LedgerAction) :
    (w.acted draw actions).ledger.records.map LedgerRecord.invalidated
      = w.ledger.records.map LedgerRecord.invalidated
        ++ ((w.book draw actions).filterMap (·.stored?)).map LedgerRecord.invalidated := by
  induction actions generalizing w with
  | nil => simp [acted, book]
  | cons action rest ih =>
    have later := ih (w.act draw action)
    rw [acted, List.foldl_cons, ← acted, book, later]
    cases action with
    | failInserts on => rfl
    | ask call =>
      rw [ledger_act_ask, Ledger.records_serve, entryFor?_ask, Option.toList_some,
        List.singleton_append, List.append_assoc, ← List.map_append, List.filterMap_cons]
      congr 2
      cases (LedgerEntry.made w.ledger call).stored? <;> rfl

/-- Whatever is asked of a ledger that is empty at first, with inserts made to fail at any time, the
    number of a user's valid records is, by the entries, the number of calls that have stored such a
    record, less the calls that have exchanged a record of the user, less those that were told that
    they have invalidated one, less all that was answered where all of the user's were invalidated.
    The records that are listed for the user are those that the entries have stored, each of them
    once, as they are now and with the newest first. -/
theorem books_balance (draw : Draw) (w : World) (actions : List LedgerAction) (userId : Uuid) :
    let start : World := { w with ledger := .empty }
    let book := start.book draw actions
    let after := start.acted draw actions
    (∃ count, ((Operation.countValid userId).run.run (answer draw) after).1 = .ok count
        ∧ (count : Int) = book.countP (·.stores userId) - book.countP (·.exchanges userId)
          - book.countP (·.invalidates userId) - (book.map (·.cleared userId)).sum)
      ∧ ∃ listed, ((Operation.ledger (.ofUser userId)).run.run (answer draw) after).1 = .ok listed
        ∧ (listed.map LedgerRecord.invalidated).Perm
          (((book.filterMap (·.stored?)).filter fun r => r.userId = userId).map
            LedgerRecord.invalidated)
        ∧ (listed.map (·.id)).Nodup
        ∧ (∀ r, r ∈ listed ↔ after.ledger.find? r.id = some r ∧ r.userId = userId)
        ∧ listed.Pairwise fun a b => b.createdAt ≤ a.createdAt := by
  intro start book after
  have counted : (Operation.countValid userId).run.run (answer draw) after
      = (.ok (after.ledger.validOf userId), after) :=
    run_operation draw after (.countValid userId)
  have listed : ((after.ledger.ofUser userId)).Perm
      (after.ledger.records.filter fun r => r.userId = userId) :=
    List.mergeSort_perm _ _
  refine ⟨⟨_, by rw [counted], ?_⟩, after.ledger.ofUser userId, rfl, ?_, ?_, fun r => ?_,
    after.ledger.pairwise_ofUser userId⟩
  · have balance : after.ledger.validOf userId + (book.countP (·.exchanges userId)
          + book.countP (·.invalidates userId) + (book.map (·.cleared userId)).sum)
        = 0 + book.countP (·.stores userId) :=
      validOf_acted draw start actions userId
    omega
  · refine (listed.map _).trans (.of_eq ?_)
    have records : after.ledger.records.map LedgerRecord.invalidated
        = (book.filterMap (·.stored?)).map LedgerRecord.invalidated :=
      records_acted draw start actions
    have mine := congrArg (List.filter fun r => r.userId = userId) records
    rwa [List.filter_map, List.filter_map] at mine
  · refine (listed.map _).nodup_iff.2 ?_
    exact after.ledger.distinct.sublist (List.filter_sublist.map _)
  · rw [listed.mem_iff, List.mem_filter, Ledger.find?_eq_some_iff]
    simp

end World

end Latchkey

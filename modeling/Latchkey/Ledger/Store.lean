import Latchkey.Error
import Latchkey.Ledger.Record

set_option autoImplicit false

/-! # The ledger

The ledger keeps one record per issued token and never removes one. A rotation invalidates a valid
record and adds its successor, or does nothing at all. Inserts can be made to fail, to see what
callers do then. -/

namespace Latchkey

/-- The records in the order in which they were added, each under an identifier of its own. -/
structure Ledger where
  records : List LedgerRecord
  distinct : (records.map (·.id)).Nodup
  failInserts : Bool := false

namespace Ledger

/-- The ledger without records. -/
def empty : Ledger where
  records := []
  distinct := List.nodup_nil

/-! ## Looking -/

/-- The record of an identifier. -/
def find? (ledger : Ledger) (id : Uuid) : Option LedgerRecord :=
  ledger.records.find? fun r => r.id = id

/-- Whether an identifier is taken. -/
def contains (ledger : Ledger) (id : Uuid) : Bool :=
  ledger.records.any fun r => r.id = id

/-- The records of a user, newest first. -/
def ofUser (ledger : Ledger) (userId : Uuid) : List LedgerRecord :=
  (ledger.records.filter fun r => r.userId = userId).mergeSort fun a b => b.createdAt ≤ a.createdAt

/-- How many records of a list are valid. -/
def countValid (records : List LedgerRecord) : Nat :=
  records.countP LedgerRecord.isValid

/-! ## Adding -/

theorem not_mem_of_not_contains {ledger : Ledger} {id : Uuid} (h : ledger.contains id = false) :
    id ∉ ledger.records.map (·.id) := by
  simpa [contains] using h

/-- The ledger with one more record, under a new identifier. -/
def push (ledger : Ledger) (record : LedgerRecord) (fresh : ledger.contains record.id = false) :
    Ledger :=
  { ledger with
    records := ledger.records ++ [record]
    distinct := by
      have absent := not_mem_of_not_contains fresh
      rw [List.map_append, List.nodup_append]
      refine ⟨ledger.distinct, by simp, fun a mem b mem' same => absent ?_⟩
      simp only [List.map_cons, List.map_nil, List.mem_singleton] at mem'
      exact mem' ▸ same ▸ mem }

/-- Adds a record. -/
def create (ledger : Ledger) (record : LedgerRecord) : Except Error Ledger :=
  if ledger.failInserts then .error (.storage "injected insert failure")
  else if fresh : ledger.contains record.id = false then .ok (ledger.push record fresh)
  else .error (.storage ("refresh token " ++ record.id.toText ++ " already exists"))

/-! ## Invalidating -/

/-- Invalidates the records that meet a condition. -/
def invalidateWhere (ledger : Ledger) (p : LedgerRecord → Bool) : Ledger :=
  { ledger with
    records := ledger.records.map fun r => if p r then r.invalidated else r
    distinct := by
      have same : (ledger.records.map fun r => if p r then r.invalidated else r).map (·.id)
          = ledger.records.map (·.id) := by
        rw [List.map_map]
        refine List.map_congr_left fun r _ => ?_
        simp only [Function.comp_apply]
        split <;> rfl
      rw [same]
      exact ledger.distinct }

/-- Invalidates the record of an identifier. -/
def invalidate (ledger : Ledger) (id : Uuid) : Ledger :=
  ledger.invalidateWhere fun r => r.id = id

/-- Whether an identifier has a valid record. -/
def hasValid (ledger : Ledger) (id : Uuid) : Bool :=
  match ledger.find? id with
  | some r => r.isValid
  | none => false

/-- Invalidates all records of a user. -/
def invalidateAll (ledger : Ledger) (userId : Uuid) : Ledger :=
  ledger.invalidateWhere fun r => r.userId = userId

/-- How many records of a user are valid. -/
def validOf (ledger : Ledger) (userId : Uuid) : Nat :=
  countValid (ledger.records.filter fun r => r.userId = userId)

/-! ## Rotating -/

/-- Invalidates a valid record and adds its successor. -/
def rotate (ledger : Ledger) (old : Uuid) (successor : LedgerRecord) : Except Error Ledger :=
  match ledger.find? old with
  | none => .error (.verification .unknownToken)
  | some r =>
    if r.isValid then (ledger.create successor).map fun added => added.invalidate old
    else .error (.verification .revoked)

end Ledger

end Latchkey

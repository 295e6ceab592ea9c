import Latchkey.Proofs.Ledger.Aging

set_option autoImplicit false

/-! # Which records an operation spends

A record is spent when it stops being valid. Each operation of the ledger spends exactly the records
that its answer accounts for. -/

namespace Latchkey.Ledger

/-- The record of an identifier is valid in one ledger and no longer valid in a later one. -/
def Spends (l l' : Ledger) (id : Uuid) : Prop :=
  l.hasValid id = true ∧ l'.hasValid id = false

variable {l l' : Ledger} {id old userId : Uuid} {r s : LedgerRecord}

theorem hasValid_push (fresh : l.contains r.id = false) :
    (l.push r fresh).hasValid id = if r.id = id then r.isValid else l.hasValid id := by
  unfold hasValid
  rw [find?_push]
  by_cases same : r.id = id <;> simp [same]

theorem hasValid_invalidate (old : Uuid) :
    (l.invalidate old).hasValid id = (l.hasValid id && id ≠ old) := by
  unfold hasValid
  rw [find?_invalidate]
  cases l.find? id with
  | none => rfl
  | some r => by_cases same : id = old <;> simp [same]

theorem not_spends_self (l : Ledger) (id : Uuid) : ¬ l.Spends l id := by
  rintro ⟨valid, invalid⟩
  simp [valid] at invalid

theorem not_spends_create (l : Ledger) (r : LedgerRecord) (id : Uuid) :
    ¬ l.Spends (l.answer (.create r)).2 id := by
  rintro ⟨valid, invalid⟩
  cases created : l.create r with
  | error e => simp [answer, created, valid] at invalid
  | ok l' =>
    obtain ⟨-, fresh, rfl⟩ := create_eq_ok_iff.1 created
    simp only [answer, created, hasValid_push] at invalid
    split at invalid
    · rename_i same
      rw [← same, ← Bool.not_eq_false] at valid
      exact valid (by simp [hasValid, contains_eq_false_iff.1 fresh])
    · simp [valid] at invalid

/-- A rotation spends its record if it succeeds, and nothing else ever. -/
theorem spends_rotate_iff :
    l.Spends (l.answer (.rotate old s)).2 id
      ↔ id = old ∧ (l.answer (.rotate old s)).1 = .ok s := by
  cases rotated : l.rotate old s with
  | error e => simp [answer, rotated, not_spends_self]
  | ok l' =>
    obtain ⟨valid, -, fresh, rfl⟩ := rotate_eq_ok_iff.1 rotated
    simp only [answer, rotated, Spends, hasValid_invalidate, hasValid_push, and_true]
    constructor
    · rintro ⟨was, is⟩
      by_contra other
      -- Another record than the old one could only be the successor, which was not there before.
      split at is
      · rename_i same
        rw [← same, ← Bool.not_eq_false] at was
        exact was (by simp [hasValid, contains_eq_false_iff.1 fresh])
      · simp [was, other] at is
    · rintro rfl
      exact ⟨valid, by simp⟩

/-- An invalidation spends its record if that is valid, which is what it answers. -/
theorem spends_invalidate_iff :
    l.Spends (l.answer (.invalidate old)).2 id
      ↔ id = old ∧ (l.answer (.invalidate old)).1 = .ok true := by
  simp only [answer, Spends, hasValid_invalidate, Except.ok.injEq]
  constructor
  · rintro ⟨was, is⟩
    have same : id = old := by simpa [was] using is
    exact ⟨same, same ▸ was⟩
  · rintro ⟨rfl, was⟩
    exact ⟨was, by simp⟩

/-- The identifiers of a user's valid records. -/
def validIdsOf (l : Ledger) (userId : Uuid) : List Uuid :=
  ((l.records.filter fun r => r.userId = userId).filter LedgerRecord.isValid).map (·.id)

theorem nodup_validIdsOf (l : Ledger) (userId : Uuid) : (l.validIdsOf userId).Nodup :=
  l.distinct.sublist ((List.filter_sublist.trans List.filter_sublist).map _)

theorem length_validIdsOf (l : Ledger) (userId : Uuid) :
    (l.validIdsOf userId).length = l.validOf userId := by
  simp [validIdsOf, validOf, countValid, List.countP_eq_length_filter]

theorem mem_validIdsOf_iff :
    id ∈ l.validIdsOf userId ↔ ∃ r, l.find? id = some r ∧ r.userId = userId ∧ r.isValid = true := by
  simp only [validIdsOf, List.mem_map, List.mem_filter, decide_eq_true_eq, find?_eq_some_iff]
  constructor
  · rintro ⟨r, ⟨⟨mem, mine⟩, valid⟩, same⟩
    exact ⟨r, ⟨mem, same⟩, mine, valid⟩
  · rintro ⟨r, ⟨mem, same⟩, mine, valid⟩
    exact ⟨r, ⟨⟨mem, mine⟩, valid⟩, same⟩

/-- Invalidating all records of a user spends the valid ones, and answers how many these are. -/
theorem spends_invalidateAll_iff :
    l.Spends (l.answer (.invalidateAll userId)).2 id ↔ id ∈ l.validIdsOf userId := by
  simp only [mem_validIdsOf_iff, answer, invalidateAll, Spends]
  cases found : l.find? id with
  | none => simp [hasValid, found]
  | some r =>
    simp only [hasValid, found, find?_invalidateWhere, Option.map_some, Option.some.injEq,
      exists_eq_left', decide_eq_true_eq]
    by_cases mine : r.userId = userId <;> cases valid : r.isValid <;> simp [mine, valid]

end Latchkey.Ledger

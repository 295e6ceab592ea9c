import Latchkey.Session.World
import Mathlib.Data.List.Nodup

set_option autoImplicit false

/-! # How the ledger changes

What each operation of the ledger does is said once, through the record that an identifier finds.
From this it follows that the ledger only moves forward (`Ledger.le_answer`): records are never
removed or exchanged, new ones come last, and a record that is no longer valid stays so. -/

namespace Latchkey

/-! ## Records -/

/-- What may have become of a record: nothing, or it is no longer valid. -/
def LedgerRecord.Ages (r later : LedgerRecord) : Prop :=
  later = r ∨ later = r.invalidated

namespace LedgerRecord

variable {r s t : LedgerRecord}

@[simp] theorem id_invalidated (r : LedgerRecord) : r.invalidated.id = r.id := rfl

@[simp] theorem userId_invalidated (r : LedgerRecord) : r.invalidated.userId = r.userId := rfl

@[simp] theorem isValid_invalidated (r : LedgerRecord) : r.invalidated.isValid = false := rfl

@[simp] theorem invalidated_invalidated (r : LedgerRecord) :
    r.invalidated.invalidated = r.invalidated := rfl

theorem invalidated_of_invalid (h : r.isValid = false) : r.invalidated = r := by
  cases r
  simp_all [invalidated]

theorem Ages.refl (r : LedgerRecord) : r.Ages r :=
  .inl rfl

theorem Ages.trans (h : r.Ages s) (h' : s.Ages t) : r.Ages t := by
  rcases h with rfl | rfl
  · exact h'
  · rcases h' with rfl | rfl <;> exact .inr rfl

theorem Ages.userId_eq (h : r.Ages s) : s.userId = r.userId := by
  rcases h with rfl | rfl <;> rfl

theorem Ages.isValid_eq_false (h : r.Ages s) (invalid : r.isValid = false) :
    s.isValid = false := by
  rcases h with rfl | rfl
  · exact invalid
  · rfl

theorem ages_ite (r : LedgerRecord) (b : Bool) : r.Ages (if b then r.invalidated else r) := by
  cases b
  · exact .inl rfl
  · exact .inr rfl

end LedgerRecord

namespace Ledger

variable {l l' l'' : Ledger} {id : Uuid} {r : LedgerRecord}

/-! ## Looking -/

/-- The identifiers in the order in which they were added. -/
def ids (l : Ledger) : List Uuid :=
  l.records.map (·.id)

theorem find?_eq_some_iff : l.find? id = some r ↔ r ∈ l.records ∧ r.id = id := by
  constructor
  · intro h
    exact ⟨List.mem_of_find?_eq_some h, by simpa using List.find?_some h⟩
  · rintro ⟨mem, rfl⟩
    obtain ⟨s, found⟩ : ∃ s, l.find? r.id = some s := by
      refine Option.isSome_iff_exists.1 (List.find?_isSome.2 ⟨r, mem, by simp⟩)
    have same : s.id = r.id := by simpa using List.find?_some found
    rw [found, List.inj_on_of_nodup_map l.distinct (List.mem_of_find?_eq_some found) mem same]

theorem id_of_find? (h : l.find? id = some r) : r.id = id :=
  (find?_eq_some_iff.1 h).2

theorem mem_ids_iff : id ∈ l.ids ↔ ∃ r, l.find? id = some r := by
  simp only [ids, List.mem_map, find?_eq_some_iff]

theorem contains_eq_true_iff : l.contains id = true ↔ id ∈ l.ids := by
  simp [contains, ids]

theorem contains_eq_false_iff : l.contains id = false ↔ l.find? id = none := by
  simp [contains, find?]

theorem hasValid_eq_true_iff :
    l.hasValid id = true ↔ ∃ r, l.find? id = some r ∧ r.isValid = true := by
  unfold hasValid
  cases h : l.find? id with
  | none => simp
  | some r => simp

theorem hasValid_of_find? (h : l.find? id = some r) : l.hasValid id = r.isValid := by
  simp [hasValid, h]

/-! ## Operations through what is found -/

theorem find?_push (fresh : l.contains r.id = false) :
    (l.push r fresh).find? id = if r.id = id then some r else l.find? id := by
  have absent := contains_eq_false_iff.1 fresh
  unfold find? push at *
  rw [List.find?_append]
  by_cases same : r.id = id
  · subst same
    simp [absent]
  · simp [same]

@[simp] theorem ids_push (fresh : l.contains r.id = false) :
    (l.push r fresh).ids = l.ids ++ [r.id] := by
  simp [ids, push]

theorem find?_invalidateWhere (p : LedgerRecord → Bool) :
    (l.invalidateWhere p).find? id
      = (l.find? id).map fun r => if p r then r.invalidated else r := by
  unfold find? invalidateWhere
  rw [List.find?_map]
  congr 2
  funext r
  simp only [Function.comp_apply]
  split <;> rfl

@[simp] theorem ids_invalidateWhere (p : LedgerRecord → Bool) :
    (l.invalidateWhere p).ids = l.ids := by
  simp only [ids, invalidateWhere, List.map_map]
  refine List.map_congr_left fun r _ => ?_
  simp only [Function.comp_apply]
  split <;> rfl

@[simp] theorem ids_invalidate : (l.invalidate id).ids = l.ids :=
  ids_invalidateWhere _

@[simp] theorem failInserts_invalidateWhere (p : LedgerRecord → Bool) :
    (l.invalidateWhere p).failInserts = l.failInserts := rfl

theorem find?_invalidate (old : Uuid) :
    (l.invalidate old).find? id
      = (l.find? id).map fun r => if id = old then r.invalidated else r := by
  rw [invalidate, find?_invalidateWhere]
  cases h : l.find? id with
  | none => rfl
  | some r => simp [id_of_find? h]

/-- What invalidating through the ledger leaves of a record, and what it answers, is what the record
    itself does and answers. -/
theorem invalidate_of_find? (h : l.find? id = some r) :
    (l.hasValid id, (l.invalidate id).find? id) = (r.invalidate.1, some r.invalidate.2) := by
  rw [hasValid_of_find? h, find?_invalidate, h, Option.map_some, if_pos rfl]
  rfl

theorem hasValid_invalidate_self (id : Uuid) : (l.invalidate id).hasValid id = false := by
  unfold hasValid
  rw [find?_invalidate]
  cases l.find? id <;> simp

/-- Invalidating what is invalid anyway changes nothing. -/
theorem invalidateWhere_eq_self {p : LedgerRecord → Bool}
    (h : ∀ r ∈ l.records, p r = true → r.isValid = false) : l.invalidateWhere p = l := by
  have same : (l.records.map fun r => if p r then r.invalidated else r) = l.records := by
    conv_rhs => rw [← List.map_id l.records]
    refine List.map_congr_left fun r mem => ?_
    split
    · rename_i meets
      exact LedgerRecord.invalidated_of_invalid (h r mem meets)
    · rfl
  unfold invalidateWhere
  congr 1

theorem invalidate_eq_self (h : l.hasValid id = false) : l.invalidate id = l := by
  refine invalidateWhere_eq_self fun r mem same => ?_
  have found : l.find? id = some r := find?_eq_some_iff.2 ⟨mem, by simpa using same⟩
  rwa [hasValid_of_find? found] at h

theorem create_eq_ok_iff :
    l.create r = .ok l'
      ↔ l.failInserts = false ∧ ∃ fresh : l.contains r.id = false, l' = l.push r fresh := by
  unfold create
  cases l.failInserts with
  | true => simp
  | false =>
    simp only [Bool.false_eq_true, if_false, true_and]
    split
    · rename_i fresh
      simp only [Except.ok.injEq, fresh, exists_true_left]
      exact eq_comm
    · rename_i taken
      simp [taken]

theorem rotate_eq_ok_iff {old : Uuid} {s : LedgerRecord} :
    l.rotate old s = .ok l'
      ↔ l.hasValid old = true ∧ l.failInserts = false
        ∧ ∃ fresh : l.contains s.id = false, l' = (l.push s fresh).invalidate old := by
  unfold rotate hasValid
  cases found : l.find? old with
  | none => simp
  | some r =>
    dsimp only
    cases valid : r.isValid with
    | false => simp
    | true =>
      simp only [if_true, true_and]
      cases created : l.create s with
      | error e =>
        simp only [Except.map, false_iff, reduceCtorEq]
        rintro ⟨noFail, fresh, -⟩
        rw [create_eq_ok_iff.2 ⟨noFail, fresh, rfl⟩] at created
        simp at created
      | ok added =>
        obtain ⟨noFail, fresh, rfl⟩ := create_eq_ok_iff.1 created
        simp only [Except.map, Except.ok.injEq, noFail, fresh, true_and, exists_true_left]
        exact eq_comm

/-- A rotation changes what two identifiers find, and nothing else. -/
theorem find?_of_rotate {old : Uuid} {s : LedgerRecord} (rotated : l.rotate old s = .ok l')
    (id : Uuid) :
    l'.find? id = if id = s.id then some s
      else if id = old then (l.find? id).map LedgerRecord.invalidated else l.find? id := by
  obtain ⟨valid, -, fresh, rfl⟩ := rotate_eq_ok_iff.1 rotated
  obtain ⟨r, found, -⟩ := hasValid_eq_true_iff.1 valid
  have differs : s.id ≠ old := by
    rintro rfl
    rw [contains_eq_false_iff.1 fresh] at found
    simp at found
  rw [find?_invalidate, find?_push]
  by_cases added : id = s.id
  · subst added
    simp [differs]
  · rw [if_neg (Ne.symm added), if_neg added]
    by_cases spent : id = old
    · simp only [spent, if_true]
    · simp [spent]

/-- A rotation of a record that is not valid any more is refused before anything else is looked
    at. -/
theorem rotate_of_invalid {old : Uuid} {s : LedgerRecord} (found : l.find? old = some r)
    (invalid : r.isValid = false) : l.rotate old s = .error (.verification .revoked) := by
  simp [rotate, found, invalid]

/-! ## Order in time -/

/-- One ledger can become another: nothing is taken away, what is new comes last, records only age,
    and inserts fail in both or in neither. -/
structure Precedes (l l' : Ledger) : Prop where
  ids_prefix : l.ids <+: l'.ids
  ages : ∀ id r, l.find? id = some r → ∃ r', l'.find? id = some r' ∧ r.Ages r'
  inserts : l'.failInserts = l.failInserts

instance : LE Ledger := ⟨Precedes⟩

theorem le_refl (l : Ledger) : l ≤ l :=
  ⟨List.prefix_refl _, fun _ r found => ⟨r, found, .refl r⟩, rfl⟩

theorem le_trans (h : l ≤ l') (h' : l' ≤ l'') : l ≤ l'' := by
  refine ⟨h.ids_prefix.trans h'.ids_prefix, fun id r found => ?_, h'.inserts.trans h.inserts⟩
  obtain ⟨r', found', ages⟩ := h.ages id r found
  obtain ⟨r'', found'', ages'⟩ := h'.ages id r' found'
  exact ⟨r'', found'', ages.trans ages'⟩

theorem le_push (fresh : l.contains r.id = false) : l ≤ l.push r fresh := by
  refine ⟨by simp, fun id s found => ⟨s, ?_, .refl s⟩, rfl⟩
  rw [find?_push]
  split
  · rename_i same
    rw [same, contains_eq_false_iff] at fresh
    rw [fresh] at found
    simp at found
  · exact found

theorem le_invalidateWhere (p : LedgerRecord → Bool) : l ≤ l.invalidateWhere p := by
  refine ⟨by simp, fun id s found => ?_, rfl⟩
  rw [find?_invalidateWhere, found]
  exact ⟨_, rfl, s.ages_ite (p s)⟩

/-- Whatever the ledger is asked, it only moves forward. -/
theorem le_answer (l : Ledger) (call : LedgerCall) : l ≤ (l.answer call).2 := by
  cases call with
  | create r =>
    cases created : l.create r with
    | error e => simpa only [answer, created] using l.le_refl
    | ok l' =>
      obtain ⟨-, fresh, rfl⟩ := create_eq_ok_iff.1 created
      simpa only [answer, created] using le_push fresh
  | find id => exact l.le_refl
  | ofUser userId => exact l.le_refl
  | invalidate id => exact le_invalidateWhere _
  | rotate old s =>
    cases rotated : l.rotate old s with
    | error e => simpa only [answer, rotated] using l.le_refl
    | ok l' =>
      obtain ⟨-, -, fresh, rfl⟩ := rotate_eq_ok_iff.1 rotated
      simpa only [answer, rotated, invalidate] using le_trans (le_push fresh) (le_invalidateWhere _)
  | invalidateAll userId => exact le_invalidateWhere _

/-! ## What the order keeps -/

theorem mem_ids_of_le (h : l ≤ l') (mem : id ∈ l.ids) : id ∈ l'.ids :=
  h.ids_prefix.subset mem

/-- A record that is invalid stays in the ledger and stays invalid. -/
theorem hasValid_eq_false_of_le (h : l ≤ l') (mem : id ∈ l.ids) (invalid : l.hasValid id = false) :
    l'.hasValid id = false := by
  obtain ⟨r, found⟩ := mem_ids_iff.1 mem
  obtain ⟨r', found', ages⟩ := h.ages id r found
  rw [hasValid_of_find? found] at invalid
  rw [hasValid_of_find? found', ages.isValid_eq_false invalid]

theorem mem_ids_of_hasValid (h : l.hasValid id = true) : id ∈ l.ids := by
  obtain ⟨r, found, -⟩ := hasValid_eq_true_iff.1 h
  exact mem_ids_iff.2 ⟨r, found⟩

/-- Identifiers keep their places. -/
theorem idxOf_eq_of_le (h : l ≤ l') (mem : id ∈ l.ids) : l'.ids.idxOf id = l.ids.idxOf id := by
  obtain ⟨more, same⟩ := h.ids_prefix
  rw [← same, List.idxOf_append_of_mem mem]

end Ledger

end Latchkey

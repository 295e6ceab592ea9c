import Latchkey.Proofs.Database.Meaning

set_option autoImplicit false

/-! # A table that executes the statements

The rows of the table of token records in a list, with a copy of them while a transaction is open.
It executes the statements about the ledger (`Table.executes`), so that what follows from `Executes`
is about something. -/

namespace Latchkey.Database

/-- The rows of the table, and those that the open transaction began with. -/
structure Table where
  rows : List LedgerRecord
  saved : Option (List LedgerRecord) := none

namespace Table

/-- What the table holds. -/
def contents (t : Table) : Contents :=
  ⟨t.rows, t.saved.map (↑)⟩

/-- Marks the rows that meet a condition as invalid, and counts them. -/
def update (t : Table) (p : LedgerRecord → Bool) : Except Fault Answer × Table :=
  (.ok (.affected (t.rows.countP p)),
    { t with rows := t.rows.map fun r => if p r then r.invalidated else r })

/-- Executes a statement about the ledger. -/
def execute (t : Table) : LedgerStatement → Except Fault Answer × Table
  | .insert r =>
    if t.rows.any fun s => s.id = r.id then
      (.error (.server 1062 "23000" "Duplicate entry for key 'refresh_tokens.PRIMARY'"), t)
    else (.ok (.affected 1), { t with rows := r.toMicros :: t.rows })
  | .byId id => (.ok (.rows ((t.rows.find? fun r => r.id = id).toList.map .ofRecord)), t)
  | .byUser userId =>
    let listed := (t.rows.filter fun r => r.userId = userId).mergeSort fun a b =>
      b.createdAt ≤ a.createdAt
    (.ok (.rows (listed.map .ofRecord)), t)
  | .invalidate id => t.update (isValidUnder id)
  | .exists id =>
    (.ok (.rows ((t.rows.find? fun r => r.id = id).toList.map fun _ => [("1", .integer 1)])), t)
  | .invalidateUser userId => t.update (isValidOf userId)
  | .countValid userId =>
    (.ok (.rows [[("COUNT(*)", .integer (t.rows.countP (isValidOf userId) : Nat))]]), t)

/-- Answers a request. Nothing else than the ledger is kept. -/
def answer : Program.Handler Request Request.Answer Table
  | .send .begin, t => (.ok (.affected 0), { t with saved := some t.rows })
  | .send .commit, t => (.ok (.affected 0), { t with saved := none })
  | .send .rollback, t => (.ok (.affected 0), ⟨t.saved.getD t.rows, none⟩)
  | .send (.ledger statement), t => t.execute statement
  | .send _, t => (.error (.server 1146 "42S02" "Table doesn't exist"), t)
  | .versions, t => (.ok [], t)
  | .noteBegun _, t => ((), t)
  | .noteComplete _, t => ((), t)

theorem contents_update (t : Table) (p : LedgerRecord → Bool) :
    (t.update p).2.contents = t.contents.invalidating p := by
  simp [update, contents, Contents.invalidating]

theorem countP_contents (t : Table) (p : LedgerRecord → Bool) :
    (t.contents.rows.countP fun r => p r) = t.rows.countP p := by
  simp [contents]

/-- What the table answers to a statement about the ledger is something that the statement means. -/
theorem means_execute (t : Table) (statement : LedgerStatement)
    (fits : ∀ r, statement = .insert r → (∃ s ∈ t.contents.rows, s.id = r.id) ∨ r.IsDatetime) :
    Meaning (.ledger statement) t.contents (t.execute statement).1
      (t.execute statement).2.contents := by
  cases statement with
  | insert r =>
    by_cases taken : ∃ s ∈ t.rows, s.id = r.id
    · rw [execute, if_pos (by simpa using taken)]
      exact .refuses r _ _ taken
    · rw [execute, if_neg (by simpa using taken)]
      refine .inserts r t.contents _ ?_ ((fits r rfl).resolve_left taken)
      exact fun s mem same => taken ⟨s, mem, same⟩
  | byId id =>
    simp only [execute]
    cases found : t.rows.find? fun r => r.id = id with
    | none => exact .findsNothing id _ (by simpa [contents] using found)
    | some r =>
      have mem : r ∈ t.contents.rows := List.mem_of_find?_eq_some found
      exact .finds id _ r _ mem (by simpa using List.find?_some found) (Row.holds_ofRecord r)
  | byUser userId =>
    refine .lists userId _ _ _ (Row.holds_map_ofRecord _) ?_ (LedgerRecord.pairwise_mergeSort _)
    exact (Multiset.coe_eq_coe.2 (List.mergeSort_perm _ _)).trans (Multiset.filter_coe _ _).symm
  | invalidate id =>
    have means := Meaning.invalidates id t.contents
    rwa [countP_contents, ← contents_update] at means
  | «exists» id => exact .sees id _ _ (by simp [contents])
  | invalidateUser userId =>
    have means := Meaning.invalidatesUser userId t.contents
    rwa [countP_contents, ← contents_update] at means
  | countValid userId =>
    have means := Meaning.counts userId t.contents "COUNT(*)"
    rwa [countP_contents] at means

/-- The table executes the statements. -/
theorem executes : Executes answer contents := by
  intro statement t given c means
  cases statement with
  | ledger statement =>
    refine t.means_execute statement fun r same => ?_
    subst same
    cases means with
    | inserts _ _ _ _ fits => exact .inr fits
    | refuses _ _ _ taken => exact .inl taken
  -- Whether a transaction is open decides whether these three mean anything.
  | begin =>
    obtain ⟨rows, _ | saved⟩ := t <;> cases means
    exact .begins _ _
  | commit =>
    obtain ⟨rows, _ | saved⟩ := t <;> cases means
    exact .commits _ _ _
  | rollback =>
    obtain ⟨rows, _ | saved⟩ := t <;> cases means
    exact .rollsBack _ _ _
  | one | script | signing | encryption => cases means

end Table

end Latchkey.Database

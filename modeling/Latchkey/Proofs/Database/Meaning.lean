import Latchkey.Proofs.Database.Steps
import Latchkey.Proofs.Ledger.Calls
import Latchkey.Proofs.Time.Instant
import Latchkey.Proofs.Uuid
import Mathlib.Data.Multiset.Filter

set_option autoImplicit false

/-! # What the statements about the ledger mean

A database that keeps the table of token records answers each statement in one of the ways that
`Meaning` lists. It leaves open what a database is free to choose: the order of rows with equal
times, the form of truth values and the texts of faults. A handler that always answers so executes
the statements (`Executes`). -/

namespace Latchkey

/-! ## Times -/

namespace Instant

/-- The times that a column for times can hold: the years 1000 to 9999. -/
def IsDatetime (i : Instant) : Prop :=
  (Date.ofCivil 1000 1 1).day * Span.secondsPerDay ≤ i.seconds
    ∧ i.seconds < (Date.ofCivil 10000 1 1).day * Span.secondsPerDay ∧ i.nanos < nanosPerSecond

end Instant

namespace LedgerRecord

/-- The record with its times cut to microseconds. -/
def toMicros (r : LedgerRecord) : LedgerRecord :=
  { r with expiresAt := r.expiresAt.toMicros, createdAt := r.createdAt.toMicros }

/-- The columns can hold the times of a record. -/
def IsDatetime (r : LedgerRecord) : Prop :=
  r.expiresAt.IsDatetime ∧ r.createdAt.IsDatetime

end LedgerRecord

/-! ## Rows -/

namespace Database

/-- A row holds a record: identifiers as text, the truth value as such or as a number. -/
structure Row.Holds (row : Row) (r : LedgerRecord) : Prop where
  id : row.cell? "id" = some (.text r.id.toText)
  userId : row.cell? "user_id" = some (.text r.userId.toText)
  isValid : row.cell? "is_valid" = some (.flag r.isValid)
    ∨ row.cell? "is_valid" = some (.integer (if r.isValid then 1 else 0))
  expiresAt : row.cell? "expire_at" = some (.time r.expiresAt)
  createdAt : row.cell? "created_at" = some (.time r.createdAt)

variable {row : Row} {r : LedgerRecord}

/-- The row that holds a record and nothing else. -/
def Row.ofRecord (r : LedgerRecord) : Row :=
  [("id", .text r.id.toText), ("user_id", .text r.userId.toText), ("is_valid", .flag r.isValid),
    ("expire_at", .time r.expiresAt), ("created_at", .time r.createdAt)]

theorem Row.holds_ofRecord (r : LedgerRecord) : (ofRecord r).Holds r :=
  ⟨rfl, rfl, .inl rfl, rfl, rfl⟩

theorem Row.holds_map_ofRecord (records : List LedgerRecord) :
    List.Forall₂ Row.Holds (records.map ofRecord) records :=
  List.forall₂_map_left_iff.2 (List.forall₂_same.2 fun r _ => holds_ofRecord r)

theorem Row.Holds.truth_eq (h : row.Holds r) : row.truth "is_valid" = .ok r.isValid := by
  rcases h.isValid with cell | cell
  · simp [truth, column, cell]
  · cases valid : r.isValid <;> simp [truth, column, cell, valid]

theorem Row.identifier_toText (noun : String) (id : Uuid) : identifier noun id.toText = .ok id := by
  simp [identifier, Uuid.parse_toText]

theorem TokenLedger.ofRow_of_holds (h : row.Holds r) : ofRow row = .ok r := by
  have id : row.text "id" = .ok r.id.toText := by simp [Row.text, Row.column, h.id]
  have userId : row.text "user_id" = .ok r.userId.toText := by
    simp [Row.text, Row.column, h.userId]
  have expiresAt : row.time "expire_at" = .ok r.expiresAt := by
    simp [Row.time, Row.column, h.expiresAt]
  have createdAt : row.time "created_at" = .ok r.createdAt := by
    simp [Row.time, Row.column, h.createdAt]
  simp only [ofRow, id, userId, h.truth_eq, expiresAt, createdAt, Row.identifier_toText, bind,
    Except.bind, pure, Except.pure]

/-- What is read item by item succeeds if each item does. -/
theorem mapM_eq_ok {ε α β : Type} {f : α → Except ε β} {as : List α} {bs : List β}
    (each : List.Forall₂ (fun a b => f a = .ok b) as bs) : as.mapM f = .ok bs := by
  induction each with
  | nil => rfl
  | cons first rest ih =>
    rw [List.mapM_cons, first, ih]
    rfl

theorem TokenLedger.mapM_ofRow {rows : List Row} {records : List LedgerRecord}
    (hold : List.Forall₂ Row.Holds rows records) : rows.mapM ofRow = .ok records :=
  mapM_eq_ok (hold.imp fun _ _ => ofRow_of_holds)

/-! ## Statements -/

/-- What a database holds of the ledger: the rows of the table, and, within a transaction, the rows
    that it began with. -/
structure Contents where
  rows : Multiset LedgerRecord
  saved : Option (Multiset LedgerRecord) := none

/-- The rows that an update marks as invalid are those that meet a condition. -/
def Contents.invalidating (c : Contents) (p : LedgerRecord → Bool) : Contents :=
  { c with rows := c.rows.map fun r => if p r then r.invalidated else r }

theorem Contents.exists_invalidating_iff {c : Contents} {p : LedgerRecord → Bool} {id : Uuid} :
    (∃ r ∈ (c.invalidating p).rows, r.id = id) ↔ ∃ r ∈ c.rows, r.id = id := by
  simp only [invalidating, Multiset.mem_map, exists_exists_and_eq_and]
  refine exists_congr fun r => and_congr_right fun _ => ?_
  split <;> rfl

/-- Whether a record has an identifier and is valid. -/
def isValidUnder (id : Uuid) (r : LedgerRecord) : Bool :=
  r.id = id && r.isValid

/-- Whether a record is a user's and is valid. -/
def isValidOf (userId : Uuid) (r : LedgerRecord) : Bool :=
  r.userId = userId && r.isValid

/-- How a database can answer a statement, and what it holds then. -/
inductive Meaning : Statement → Contents → Except Fault Answer → Contents → Prop
  | begins (rows : Multiset LedgerRecord) (answer : Answer) :
    Meaning .begin ⟨rows, none⟩ (.ok answer) ⟨rows, some rows⟩
  | commits (rows saved : Multiset LedgerRecord) (answer : Answer) :
    Meaning .commit ⟨rows, some saved⟩ (.ok answer) ⟨rows, none⟩
  | rollsBack (rows saved : Multiset LedgerRecord) (answer : Answer) :
    Meaning .rollback ⟨rows, some saved⟩ (.ok answer) ⟨saved, none⟩
  | inserts (r : LedgerRecord) (c : Contents) (answer : Answer)
      (fresh : ∀ s ∈ c.rows, s.id ≠ r.id) (fits : r.IsDatetime) :
    Meaning (.ledger (.insert r)) c (.ok answer) { c with rows := r.toMicros ::ₘ c.rows }
  | refuses (r : LedgerRecord) (c : Contents) (fault : Fault) (taken : ∃ s ∈ c.rows, s.id = r.id) :
    Meaning (.ledger (.insert r)) c (.error fault) c
  | invalidates (id : Uuid) (c : Contents) :
    Meaning (.ledger (.invalidate id)) c
      (.ok (.affected (c.rows.countP fun r => isValidUnder id r)))
      (c.invalidating (isValidUnder id))
  | invalidatesUser (userId : Uuid) (c : Contents) :
    Meaning (.ledger (.invalidateUser userId)) c
      (.ok (.affected (c.rows.countP fun r => isValidOf userId r)))
      (c.invalidating (isValidOf userId))
  | finds (id : Uuid) (c : Contents) (r : LedgerRecord) (row : Row) (mem : r ∈ c.rows)
      (same : r.id = id) (holds : row.Holds r) :
    Meaning (.ledger (.byId id)) c (.ok (.rows [row])) c
  | findsNothing (id : Uuid) (c : Contents) (absent : ∀ r ∈ c.rows, r.id ≠ id) :
    Meaning (.ledger (.byId id)) c (.ok (.rows [])) c
  | lists (userId : Uuid) (c : Contents) (rows : List Row) (records : List LedgerRecord)
      (hold : List.Forall₂ Row.Holds rows records)
      (all : (records : Multiset LedgerRecord) = c.rows.filter fun r => r.userId = userId)
      (newestFirst : records.Pairwise fun a b => b.createdAt ≤ a.createdAt) :
    Meaning (.ledger (.byUser userId)) c (.ok (.rows rows)) c
  | sees (id : Uuid) (c : Contents) (rows : List Row)
      (some_iff : rows ≠ [] ↔ ∃ r ∈ c.rows, r.id = id) :
    Meaning (.ledger (.exists id)) c (.ok (.rows rows)) c
  | counts (userId : Uuid) (c : Contents) (column : String) :
    Meaning (.ledger (.countValid userId)) c
      (.ok (.rows [[(column, .integer (c.rows.countP fun r => isValidOf userId r : Nat))]])) c

/-! ## Databases that execute them -/

section Executing

variable {σ : Type}

/-- A handler executes the statements: what it answers, and what it holds then, is always something
    that the statement means, as long as it means anything. -/
def Executes (db : Program.Handler Request Request.Answer σ) (view : σ → Contents) : Prop :=
  ∀ statement s answer c, Meaning statement (view s) answer c →
    Meaning statement (view s) (db (.send statement) s).1 (view (db (.send statement) s).2)

variable {db : Program.Handler Request Request.Answer σ} {view : σ → Contents} {s : σ}
  {c c' : Contents}

/-- A statement that means something is answered with something that it means. -/
theorem Executes.answers (h : Executes db view) {statement : Statement}
    {answer : Except Fault Answer} (held : view s = c) (means : Meaning statement c answer c') :
    ∃ answer c' s', Meaning statement c answer c' ∧ view s' = c'
      ∧ db (.send statement) s = (answer, s') := by
  subst held
  exact ⟨_, _, _, h _ _ _ _ means, rfl, rfl⟩

theorem Executes.run_sending (h : Executes db view) {statement : Statement}
    {answer : Except Fault Answer} (held : view s = c) (means : Meaning statement c answer c') :
    ∃ answer c' s', Meaning statement c answer c' ∧ view s' = c'
      ∧ ∀ (α : Type) (refused : Fault → Program Request Request.Answer α)
        (answered : Answer → Program Request Request.Answer α),
        (sending statement refused answered).run db s
          = (match answer with
            | .error fault => refused fault
            | .ok answer => answered answer).run db s' := by
  obtain ⟨answer, c', s', means, held', sent⟩ := h.answers held means
  refine ⟨answer, c', s', means, held', fun α refused answered => ?_⟩
  simp only [sending, Program.run, sent]
  cases answer <;> rfl

end Executing

end Database

end Latchkey

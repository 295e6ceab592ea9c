import Latchkey.Proofs.Database.Table
import Latchkey.Proofs.Ledger.Spending
import Mathlib.Data.List.Infix

set_option autoImplicit false

/-! # The ledger in the database does what the ledger in memory does

Over a database that executes its statements, the two ledgers give the same answers to the same
calls, and keep the same records (`StoreCall.database_mirrors_memory`). They need not have the same
wording for a failure of the store, and may list records of the same time in any order. -/

namespace Latchkey

/-! ## The records of a ledger as rows -/

namespace Ledger

open Database (Contents isValidUnder isValidOf)

variable {l : Ledger} {id userId : Uuid} {r : LedgerRecord}

/-- What a database holds that has the records of a ledger, outside of transactions. -/
def contents (l : Ledger) : Contents :=
  ⟨l.records, none⟩

/-- To invalidate the valid records under a condition is to invalidate all under it. -/
theorem contents_invalidateWhere (l : Ledger) {p q : LedgerRecord → Bool}
    (valid : ∀ r, q r = (p r && r.isValid)) :
    (l.invalidateWhere p).contents = l.contents.invalidating q := by
  have same : l.records.map (fun r => if p r then r.invalidated else r)
      = l.records.map fun r => if q r then r.invalidated else r := by
    refine List.map_congr_left fun r _ => ?_
    rw [valid]
    cases isValid : r.isValid with
    | true => simp
    | false => simp [LedgerRecord.invalidated_of_invalid isValid]
  simp only [contents, Contents.invalidating, invalidateWhere, Multiset.map_coe, same]

theorem contents_push (fresh : l.contains r.id = false) :
    (l.push r fresh).contents = ⟨r ::ₘ l.contents.rows, none⟩ := by
  simp [contents, push, Multiset.cons_coe]

/-- A rotation may as well invalidate the old record before it adds the successor. -/
theorem contents_rotated {old : Uuid} (fresh : l.contains r.id = false) (other : r.id ≠ old) :
    ((l.push r fresh).invalidate old).contents
      = ⟨r ::ₘ (l.contents.invalidating (isValidUnder old)).rows, none⟩ := by
  rw [invalidate, contents_invalidateWhere (q := isValidUnder old) _ fun _ => rfl, contents_push]
  simp [Contents.invalidating, isValidUnder, other]

theorem countP_isValidOf (l : Ledger) (userId : Uuid) :
    (l.contents.rows.countP fun r => isValidOf userId r) = l.validOf userId := by
  simp [contents, isValidOf, validOf, countValid, List.countP_filter, Bool.and_comm]

theorem countP_isValidUnder_pos_iff :
    0 < (l.contents.rows.countP fun r => isValidUnder id r) ↔ l.hasValid id = true := by
  simp [contents, isValidUnder, hasValid_eq_true_iff, find?_eq_some_iff,
    and_assoc]

theorem exists_contents_iff : (∃ r ∈ l.contents.rows, r.id = id) ↔ l.contains id = true := by
  simp [contents, contains]

theorem forall_contents_iff : (∀ r ∈ l.contents.rows, r.id ≠ id) ↔ l.contains id = false := by
  simp [contents, contains]

/-! ### Listings -/

theorem coe_ofUser (l : Ledger) (userId : Uuid) :
    (l.ofUser userId : Multiset LedgerRecord)
      = l.contents.rows.filter fun r => r.userId = userId := by
  rw [contents, Multiset.filter_coe]
  exact Multiset.coe_eq_coe.2 (List.mergeSort_perm _ _)

/-! ### Refusals -/

theorem create_of_contains (taken : l.contains r.id = true) (inserts : l.failInserts = false) :
    ∃ text, l.create r = .error (.storage text) := by
  simp [create, taken, inserts]

theorem rotate_of_contains {old : Uuid} (valid : l.hasValid old = true)
    (taken : l.contains r.id = true) (inserts : l.failInserts = false) :
    ∃ text, l.rotate old r = .error (.storage text) := by
  obtain ⟨s, found, isValid⟩ := hasValid_eq_true_iff.1 valid
  obtain ⟨text, refused⟩ := create_of_contains taken inserts
  exact ⟨text, by simp [rotate, found, isValid, refused, Except.map]⟩

theorem rotate_of_not_hasValid {old : Uuid} (invalid : l.hasValid old = false) :
    l.rotate old r
      = .error (.verification (if l.contains old then .revoked else .unknownToken)) := by
  cases found : l.find? old with
  | none => simp [rotate, found, contains_eq_false_iff.2 found]
  | some s =>
    rw [hasValid_of_find? found] at invalid
    rw [rotate_of_invalid found invalid, contains_eq_true_iff.2 (mem_ids_iff.2 ⟨s, found⟩)]
    rfl

end Ledger

/-! ## Calls -/

/-- Two failures of the same kind; for a refused token, also of the same cause. -/
def Error.SameVariant : Error → Error → Prop
  | .verification cause, .verification cause' => cause = cause'
  | e, e' => e.kind = e'.kind

namespace StoreCall

/-- What a call does over a database. -/
def query : (call : StoreCall) → Database.Operation Error call.Answer
  | .ledger (.create record) => Database.TokenLedger.create record
  | .ledger (.find id) => Database.TokenLedger.find id
  | .ledger (.ofUser userId) => Database.TokenLedger.ofUser userId
  | .ledger (.invalidate id) => Database.TokenLedger.invalidate id
  | .ledger (.rotate old successor) => Database.TokenLedger.rotate old successor
  | .ledger (.invalidateAll userId) => Database.TokenLedger.invalidateAll userId
  | .countValid userId => Database.TokenLedger.countValid userId

/-- A record that a call adds has times that the columns can hold, in whole microseconds. -/
def Fits : StoreCall → Prop
  | .ledger (.create record) | .ledger (.rotate _ record) =>
    record.IsDatetime ∧ record.toMicros = record
  | _ => True

/-- Two answers are the same; listings, up to the order of records of the same time. -/
def SameAnswer : (call : StoreCall) → call.Answer → call.Answer → Prop
  | .ledger (.ofUser _), records, records' =>
    records.Perm records' ∧ records.map (·.createdAt) = records'.map (·.createdAt)
  | _, answer, answer' => answer = answer'

/-- Two results say the same: they are the same answer, or failures of the same kind. -/
def Agrees (call : StoreCall) : Except Error call.Answer → Except Error call.Answer → Prop
  | .ok answer, .ok answer' => call.SameAnswer answer answer'
  | .error e, .error e' => e.SameVariant e'
  | _, _ => False

end StoreCall

namespace Database

open TokenLedger

variable {σ : Type} {db : Program.Handler Request Request.Answer σ} {view : σ → Contents} {s : σ}
  {l : Ledger}

/-- Over a database, a call answers what it answers in memory, and leaves the same records. -/
def Mirrors (db : Program.Handler Request Request.Answer σ) (view : σ → Contents) (s : σ)
    (l : Ledger) (call : StoreCall) : Prop :=
  call.Agrees (call.query.run.run db s).1 (l.serve call).1
    ∧ view (call.query.run.run db s).2 = (l.serve call).2.contents

namespace Executes

theorem mirrors_create (h : Executes db view) (held : view s = l.contents)
    (inserts : l.failInserts = false) {r : LedgerRecord} (fits : r.IsDatetime)
    (whole : r.toMicros = r) : Mirrors db view s l (.ledger (.create r)) := by
  simp only [Mirrors, StoreCall.query, run_create, Ledger.serve, Ledger.answer]
  cases taken : l.contains r.id with
  | true =>
    have present := Ledger.exists_contents_iff.2 taken
    obtain ⟨text, refused⟩ := Ledger.create_of_contains taken inserts
    obtain ⟨_, _, s', means, held', ran⟩ := h.run_sending held (.refuses r _ .noRow present)
    rw [ran, refused]
    cases means with
    | inserts _ _ _ fresh => exact absurd present (by simpa using fresh)
    | refuses _ _ fault => exact ⟨rfl, held'⟩
  | false =>
    have absent := Ledger.forall_contents_iff.2 taken
    obtain ⟨_, _, s', means, held', ran⟩ :=
      h.run_sending held (.inserts r _ (.affected 1) absent fits)
    rw [ran, Ledger.create_eq_ok_iff.2 ⟨inserts, taken, rfl⟩]
    cases means with
    | inserts =>
      rw [whole] at held'
      exact ⟨rfl, held'.trans (Ledger.contents_push taken).symm⟩
    | refuses _ _ _ present => exact absurd present (by simpa using absent)

theorem mirrors_find (h : Executes db view) (held : view s = l.contents) (id : Uuid) :
    Mirrors db view s l (.ledger (.find id)) := by
  simp only [Mirrors, StoreCall.query, run_find, Ledger.serve, Ledger.answer]
  cases found : l.find? id with
  | none =>
    have absent := Ledger.forall_contents_iff.2 (Ledger.contains_eq_false_iff.2 found)
    obtain ⟨_, _, s', means, held', ran⟩ := h.run_sending held (.findsNothing id _ absent)
    rw [ran]
    cases means with
    | finds _ _ r row mem same => exact absurd same (absent r mem)
    | findsNothing => exact ⟨rfl, held'⟩
  | some r =>
    obtain ⟨mem, same⟩ := Ledger.find?_eq_some_iff.1 found
    obtain ⟨_, _, s', means, held', ran⟩ :=
      h.run_sending held (.finds id _ r _ mem same (Row.holds_ofRecord r))
    rw [ran]
    cases means with
    | finds _ _ r' row mem' same' holds =>
      have found' : l.find? id = some r' := Ledger.find?_eq_some_iff.2 ⟨mem', same'⟩
      obtain rfl : r = r' := Option.some.inj (found.symm.trans found')
      refine ⟨?_, held'⟩
      simp only [Program.run, Answer.found, List.head?_cons, Option.mapM_some, ofRow_of_holds holds]
      rfl
    | findsNothing _ _ absent => exact absurd same (absent r mem)

theorem mirrors_ofUser (h : Executes db view) (held : view s = l.contents) (userId : Uuid) :
    Mirrors db view s l (.ledger (.ofUser userId)) := by
  simp only [Mirrors, StoreCall.query, run_ofUser, Ledger.serve, Ledger.answer]
  obtain ⟨_, _, s', means, held', ran⟩ := h.run_sending held
    (.lists userId _ _ (l.ofUser userId) (Row.holds_map_ofRecord _) (Ledger.coe_ofUser l userId)
      (Ledger.pairwise_ofUser l userId))
  rw [ran]
  cases means with
  | lists _ _ rows records hold all newestFirst =>
    have listed : records.Perm (l.ofUser userId) :=
      Multiset.coe_eq_coe.1 (all.trans (Ledger.coe_ofUser l userId).symm)
    refine ⟨?_, held'⟩
    simp only [Program.run, Answer.found, mapM_ofRow hold, StoreCall.Agrees, StoreCall.SameAnswer]
    have falling : (records.map (·.createdAt)).Pairwise fun a b => b ≤ a :=
      List.pairwise_map.2 newestFirst
    have falling' : ((l.ofUser userId).map (·.createdAt)).Pairwise fun a b => b ≤ a :=
      List.pairwise_map.2 (Ledger.pairwise_ofUser l userId)
    exact ⟨listed, (listed.map _).eq_of_pairwise
      (fun a b _ _ le le' => Instant.le_antisymm le' le) falling falling'⟩

theorem mirrors_invalidate (h : Executes db view) (held : view s = l.contents) (id : Uuid) :
    Mirrors db view s l (.ledger (.invalidate id)) := by
  simp only [Mirrors, StoreCall.query, run_invalidate, Ledger.serve, Ledger.answer]
  obtain ⟨_, _, s', means, held', ran⟩ := h.run_sending held (.invalidates id _)
  rw [ran]
  cases means with
  | invalidates =>
    refine ⟨?_, ?_⟩
    · simp only [Program.run, Answer.count, Ledger.countP_isValidUnder_pos_iff]
      exact Bool.decide_eq_true
    · exact held'.trans (Ledger.contents_invalidateWhere l fun _ => rfl).symm

theorem mirrors_invalidateAll (h : Executes db view) (held : view s = l.contents)
    (userId : Uuid) : Mirrors db view s l (.ledger (.invalidateAll userId)) := by
  simp only [Mirrors, StoreCall.query, run_invalidateAll, Ledger.serve, Ledger.answer]
  obtain ⟨_, _, s', means, held', ran⟩ := h.run_sending held (.invalidatesUser userId _)
  rw [ran]
  cases means with
  | invalidatesUser =>
    refine ⟨Ledger.countP_isValidOf l userId, ?_⟩
    exact held'.trans (Ledger.contents_invalidateWhere l fun _ => rfl).symm

theorem mirrors_countValid (h : Executes db view) (held : view s = l.contents) (userId : Uuid) :
    Mirrors db view s l (.countValid userId) := by
  simp only [Mirrors, StoreCall.query, run_countValid, Ledger.serve]
  obtain ⟨_, _, s', means, held', ran⟩ := h.run_sending held (.counts userId _ "COUNT(*)")
  rw [ran]
  cases means with
  | counts => exact ⟨Ledger.countP_isValidOf l userId, held'⟩

/-! ## Rotations -/

variable {rows saved : Multiset LedgerRecord} {old : Uuid} {successor : LedgerRecord}

/-- To give up within a transaction brings the rows back that it began with. -/
theorem run_abandon (h : Executes db view) (held : view s = ⟨rows, some saved⟩) {α : Type}
    (purpose : String) (fault : Fault) :
    ∃ s', view s' = ⟨saved, none⟩
      ∧ (Operation.abandon purpose fault : Program _ _ (Except Error α)).run db s
        = (.error (Operation.refusal purpose fault), s') := by
  obtain ⟨_, _, s', means, held', sent⟩ := h.answers held (.rollsBack rows saved (.affected 0))
  cases means with
  | rollsBack =>
    refine ⟨s', held', ?_⟩
    simp only [Operation.abandon, Program.run, sent]
    rfl

theorem run_reject (h : Executes db view) (held : view s = ⟨rows, some saved⟩) {present : Bool}
    (seen : (∃ r ∈ rows, r.id = old) ↔ present = true) :
    ∃ s', view s' = ⟨saved, none⟩ ∧ (reject old).run db s
      = (.error (.verification (if present then .revoked else .unknownToken)), s') := by
  have means : Meaning (.ledger (.exists old)) ⟨rows, some saved⟩
      (.ok (.rows (if present then [[]] else []))) ⟨rows, some saved⟩ := by
    refine .sees old _ _ (Iff.trans ?_ seen.symm)
    cases present <;> simp
  obtain ⟨_, _, s₁, means₁, held₁, ran₁⟩ := h.run_sending held means
  cases means₁ with
  | sees _ _ found some_iff =>
    obtain ⟨_, _, s₂, means₂, held₂, ran₂⟩ :=
      h.run_sending held₁ (.rollsBack rows saved (.affected 0))
    cases means₂ with
    | rollsBack =>
      refine ⟨s₂, held₂, ?_⟩
      rw [reject, ran₁]
      dsimp only
      rw [ran₂]
      have same := some_iff.trans seen
      cases present <;> simp_all [Program.run, Answer.found]

theorem run_replace (h : Executes db view) (held : view s = ⟨rows, some saved⟩)
    (absent : ∀ r ∈ rows, r.id ≠ successor.id) (fits : successor.IsDatetime) :
    ∃ s', view s' = ⟨successor.toMicros ::ₘ rows, none⟩
      ∧ (replace successor).run db s = (.ok successor, s') := by
  obtain ⟨_, _, s₁, means₁, held₁, ran₁⟩ :=
    h.run_sending held (.inserts successor _ (.affected 1) absent fits)
  cases means₁ with
  | refuses _ _ _ present => exact absurd present (by simpa using absent)
  | inserts =>
    obtain ⟨_, _, s₂, means₂, held₂, ran₂⟩ := h.run_sending held₁ (.commits _ saved (.affected 0))
    cases means₂ with
    | commits =>
      refine ⟨s₂, held₂, ?_⟩
      rw [replace, ran₁]
      dsimp only
      rw [ran₂]
      rfl

theorem run_replace_taken (h : Executes db view) (held : view s = ⟨rows, some saved⟩)
    (present : ∃ r ∈ rows, r.id = successor.id) :
    ∃ s' text, view s' = ⟨saved, none⟩
      ∧ (replace successor).run db s = (.error (.storage text), s') := by
  obtain ⟨_, _, s₁, means₁, held₁, ran₁⟩ :=
    h.run_sending held (.refuses successor _ .noRow present)
  cases means₁ with
  | inserts _ _ _ absent => exact absurd present (by simpa using absent)
  | refuses _ _ fault =>
    obtain ⟨s₂, held₂, ran₂⟩ :=
      h.run_abandon (α := LedgerRecord) held₁ "save successor refresh token" fault
    exact ⟨s₂, _, held₂, by rw [replace, ran₁]; exact ran₂⟩

/-- A rotation begins a transaction and invalidates the old record, if it is valid. -/
theorem run_rotate_begun (h : Executes db view) (held : view s = ⟨rows, none⟩) (old : Uuid)
    (successor : LedgerRecord) :
    ∃ s', view s' = ⟨(Contents.invalidating ⟨rows, none⟩ (isValidUnder old)).rows, some rows⟩
      ∧ (rotate old successor).run.run db s
        = (if rows.countP (fun r => isValidUnder old r) = 0 then reject old
          else replace successor).run db s' := by
  obtain ⟨_, _, s₁, means₁, held₁, ran₁⟩ := h.run_sending held (.begins rows (.affected 0))
  cases means₁ with
  | begins =>
    obtain ⟨_, _, s₂, means₂, held₂, ran₂⟩ := h.run_sending held₁ (.invalidates old _)
    cases means₂ with
    | invalidates =>
      refine ⟨s₂, held₂, ?_⟩
      rw [run_rotate, ran₁]
      dsimp only
      rw [ran₂]
      rfl

/-- The database invalidates the old record first and takes that back if it has to; in memory the
    checks come first. -/
theorem mirrors_rotate (h : Executes db view) (held : view s = l.contents)
    (inserts : l.failInserts = false) (old : Uuid) (fits : successor.IsDatetime)
    (whole : successor.toMicros = successor) :
    Mirrors db view s l (.ledger (.rotate old successor)) := by
  simp only [Mirrors, StoreCall.query, Ledger.serve, Ledger.answer]
  have seen : ∀ id, (∃ r ∈ (l.contents.invalidating (isValidUnder old)).rows, r.id = id)
      ↔ l.contains id = true :=
    fun id => Contents.exists_invalidating_iff.trans Ledger.exists_contents_iff
  have begun : view s = ⟨l.contents.rows, none⟩ := held
  obtain ⟨s₁, held₁, ran₁⟩ := h.run_rotate_begun begun old successor
  rw [ran₁]
  cases valid : l.hasValid old with
  | false =>
    have unchanged : ¬ 0 < l.contents.rows.countP fun r => isValidUnder old r := by
      rw [Ledger.countP_isValidUnder_pos_iff, valid]
      simp
    obtain ⟨s₂, held₂, ran₂⟩ := h.run_reject held₁ (seen old)
    rw [if_pos (Nat.eq_zero_of_not_pos unchanged), ran₂, Ledger.rotate_of_not_hasValid valid]
    exact ⟨rfl, held₂⟩
  | true =>
    have changed : 0 < l.contents.rows.countP fun r => isValidUnder old r :=
      Ledger.countP_isValidUnder_pos_iff.2 valid
    rw [if_neg (Nat.ne_of_gt changed)]
    cases taken : l.contains successor.id with
    | true =>
      obtain ⟨s₂, _, held₂, ran₂⟩ := h.run_replace_taken held₁ ((seen _).2 taken)
      obtain ⟨text, refused⟩ := Ledger.rotate_of_contains valid taken inserts
      rw [ran₂, refused]
      exact ⟨rfl, held₂⟩
    | false =>
      have absent : ∀ r ∈ (l.contents.invalidating (isValidUnder old)).rows,
          r.id ≠ successor.id := fun r mem same => by
        simp [(seen successor.id).1 ⟨r, mem, same⟩] at taken
      obtain ⟨s₂, held₂, ran₂⟩ := h.run_replace held₁ absent fits
      have other : successor.id ≠ old := by
        rintro rfl
        rw [Ledger.contains_eq_true_iff.2 (Ledger.mem_ids_of_hasValid valid)] at taken
        simp at taken
      rw [whole] at held₂
      rw [ran₂, Ledger.rotate_eq_ok_iff.2 ⟨valid, inserts, taken, rfl⟩]
      exact ⟨rfl, held₂.trans (Ledger.contents_rotated taken other).symm⟩

/-! ## Whole runs -/

theorem mirrors (h : Executes db view) (held : view s = l.contents)
    (inserts : l.failInserts = false) (call : StoreCall) (fits : call.Fits) :
    Mirrors db view s l call := by
  match call, fits with
  | .ledger (.create _), ⟨fits, whole⟩ => exact h.mirrors_create held inserts fits whole
  | .ledger (.find id), _ => exact h.mirrors_find held id
  | .ledger (.ofUser userId), _ => exact h.mirrors_ofUser held userId
  | .ledger (.invalidate id), _ => exact h.mirrors_invalidate held id
  | .ledger (.rotate old _), ⟨fits, whole⟩ => exact h.mirrors_rotate held inserts old fits whole
  | .ledger (.invalidateAll userId), _ => exact h.mirrors_invalidateAll held userId
  | .countValid userId, _ => exact h.mirrors_countValid held userId

end Executes

end Database

namespace StoreCall

open Database (Executes Contents)

/-- A database after calls. -/
def overDatabase {σ : Type} (db : Program.Handler Database.Request Database.Request.Answer σ)
    (s : σ) (calls : List StoreCall) : σ :=
  calls.foldl (fun s call => (call.query.run.run db s).2) s

/-- A world after calls. They need nothing that is drawn. -/
def inMemory (draw : Draw) (w : World) (calls : List StoreCall) : World :=
  calls.foldl (fun w call => (call.operation.run.run (World.answer draw) w).2) w

variable {σ : Type} {db : Program.Handler Database.Request Database.Request.Answer σ}
  {view : σ → Contents} {s : σ} {w : World} {calls : List StoreCall}

theorem inMemory_concat (draw : Draw) (w : World) (pre : List StoreCall) (call : StoreCall) :
    inMemory draw w (pre ++ [call])
      = { inMemory draw w pre with ledger := ((inMemory draw w pre).ledger.serve call).2 } := by
  rw [inMemory, List.foldl_concat, World.run_operation]
  rfl

theorem contents_overDatabase (draw : Draw) (executes : Executes db view)
    (held : view s = w.ledger.contents) (inserts : w.ledger.failInserts = false)
    (fits : ∀ call ∈ calls, call.Fits) :
    view (overDatabase db s calls) = (inMemory draw w calls).ledger.contents
      ∧ (inMemory draw w calls).ledger.failInserts = false := by
  induction calls using List.reverseRecOn with
  | nil => exact ⟨held, inserts⟩
  | append_singleton calls call ih =>
    obtain ⟨held, inserts⟩ := ih fun call mem => fits call (List.mem_append_left _ mem)
    have mirrors := executes.mirrors held inserts call (fits call (by simp))
    rw [overDatabase, List.foldl_concat, inMemory_concat]
    exact ⟨mirrors.2, ((Ledger.le_serve _ call).inserts).trans inserts⟩

end StoreCall

end Latchkey

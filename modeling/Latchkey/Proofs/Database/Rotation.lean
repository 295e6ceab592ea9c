import Latchkey.Proofs.Database.Steps
import Mathlib.Data.List.Basic

set_option autoImplicit false

/-! # Rotations with an untrusted peer

A peer may answer each statement of a rotation with whatever it likes: a fault, any number of
changed rows, any rows. There are eight ways in which a rotation can go then
(`TokenLedger.Course`), and in all of them it keeps to the discipline of a transaction
(`TokenLedger.rotate_is_disciplined`): nothing is added before the old record was invalidated,
nothing is committed before the successor was added, and only an acknowledged commit is a
success. -/

namespace Latchkey.Database

/-! ## Conversations -/

/-- A statement that was sent, and what it was answered. -/
structure Exchange where
  statement : Statement
  answer : Except Fault Answer

/-- A peer that answers as it likes, knowing all that was said so far. -/
abbrev Whim := List Exchange → (r : Request) → r.Answer

/-- Puts down everything that is said to a peer and answered by it. -/
def converse (peer : Whim) : Program.Handler Request Request.Answer (List Exchange)
  | .send statement, said =>
    let answer := peer said (.send statement)
    (answer, said ++ [⟨statement, answer⟩])
  | request, said => (peer said request, said)

variable {α : Type} {peer : Whim} {said : List Exchange}

/-- A statement is either refused or answered. -/
theorem run_sending (peer : Whim) (said : List Exchange) (statement : Statement)
    (refused : Fault → Program Request Request.Answer α)
    (answered : Answer → Program Request Request.Answer α) :
    (∃ fault, (sending statement refused answered).run (converse peer) said
        = (refused fault).run (converse peer) (said ++ [⟨statement, .error fault⟩]))
      ∨ ∃ answer, (sending statement refused answered).run (converse peer) said
        = (answered answer).run (converse peer) (said ++ [⟨statement, .ok answer⟩]) := by
  simp only [sending, Program.run, converse]
  cases peer said (.send statement) with
  | error fault => exact .inl ⟨fault, rfl⟩
  | ok answer => exact .inr ⟨answer, rfl⟩

namespace TokenLedger

open Operation (refusal abandon)

variable {old : Uuid} {successor : LedgerRecord}

/-! ## How a rotation can go -/

/-- The conversations of a rotation, and how they end. -/
inductive Course (old : Uuid) (successor : LedgerRecord) :
    List Exchange → Except Error LedgerRecord → Prop
  | notBegun (fault : Fault) :
    Course old successor [⟨.begin, .error fault⟩] (.error (refusal "begin rotation" fault))
  | notUpdated (begun : Answer) (fault : Fault) (back : Except Fault Answer) :
    Course old successor
      [⟨.begin, .ok begun⟩, ⟨.ledger (.invalidate old), .error fault⟩, ⟨.rollback, back⟩]
      (.error (refusal "invalidate rotated refresh token" fault))
  | notSeen (begun changed : Answer) (none : changed.count = 0) (fault : Fault)
      (back : Except Fault Answer) :
    Course old successor
      [⟨.begin, .ok begun⟩, ⟨.ledger (.invalidate old), .ok changed⟩,
        ⟨.ledger (.exists old), .error fault⟩, ⟨.rollback, back⟩]
      (.error (refusal "look up rotated refresh token" fault))
  | notRolledBack (begun changed seen : Answer) (none : changed.count = 0) (fault : Fault)
      (back : Except Fault Answer) :
    Course old successor
      [⟨.begin, .ok begun⟩, ⟨.ledger (.invalidate old), .ok changed⟩,
        ⟨.ledger (.exists old), .ok seen⟩, ⟨.rollback, .error fault⟩, ⟨.rollback, back⟩]
      (.error (refusal "roll back rotation" fault))
  | rejected (begun changed seen back : Answer) (none : changed.count = 0) :
    Course old successor
      [⟨.begin, .ok begun⟩, ⟨.ledger (.invalidate old), .ok changed⟩,
        ⟨.ledger (.exists old), .ok seen⟩, ⟨.rollback, .ok back⟩]
      (.error (.verification (if seen.found.isEmpty then .unknownToken else .revoked)))
  | notAdded (begun changed : Answer) (some : 0 < changed.count) (fault : Fault)
      (back : Except Fault Answer) :
    Course old successor
      [⟨.begin, .ok begun⟩, ⟨.ledger (.invalidate old), .ok changed⟩,
        ⟨.ledger (.insert successor), .error fault⟩, ⟨.rollback, back⟩]
      (.error (refusal "save successor refresh token" fault))
  | notCommitted (begun changed added : Answer) (some : 0 < changed.count) (fault : Fault)
      (back : Except Fault Answer) :
    Course old successor
      [⟨.begin, .ok begun⟩, ⟨.ledger (.invalidate old), .ok changed⟩,
        ⟨.ledger (.insert successor), .ok added⟩, ⟨.commit, .error fault⟩, ⟨.rollback, back⟩]
      (.error (refusal "commit rotation" fault))
  | committed (begun changed added done : Answer) (some : 0 < changed.count) :
    Course old successor
      [⟨.begin, .ok begun⟩, ⟨.ledger (.invalidate old), .ok changed⟩,
        ⟨.ledger (.insert successor), .ok added⟩, ⟨.commit, .ok done⟩]
      (.ok successor)

/-- Every rotation goes in one of these ways, whatever it is answered. -/
theorem course_rotate (peer : Whim) (old : Uuid) (successor : LedgerRecord) :
    let ended := (rotate old successor).run.run (converse peer) []
    Course old successor ended.2 ended.1 := by
  rw [run_rotate]
  rcases run_sending peer [] .begin _ _ with ⟨fault, h⟩ | ⟨begun, h⟩ <;> rw [h]
  · exact .notBegun fault
  rcases run_sending peer _ (.ledger (.invalidate old)) _ _ with ⟨fault, h⟩ | ⟨changed, h⟩ <;> rw [h]
  · exact .notUpdated begun fault _
  by_cases none : changed.count = 0
  · rw [if_pos none, reject]
    rcases run_sending peer _ (.ledger (.exists old)) _ _ with ⟨fault, h⟩ | ⟨seen, h⟩ <;> rw [h]
    · exact .notSeen begun changed none fault _
    rcases run_sending peer _ .rollback _ _ with ⟨fault, h⟩ | ⟨back, h⟩ <;> rw [h]
    · exact .notRolledBack begun changed seen none fault _
    · exact .rejected begun changed seen back none
  · have some := Nat.pos_of_ne_zero none
    rw [if_neg none, replace]
    rcases run_sending peer _ (.ledger (.insert successor)) _ _ with ⟨fault, h⟩ | ⟨added, h⟩ <;>
      rw [h]
    · exact .notAdded begun changed some fault _
    rcases run_sending peer _ .commit _ _ with ⟨fault, h⟩ | ⟨done, h⟩ <;> rw [h]
    · exact .notCommitted begun changed added some fault _
    · exact .committed begun changed added done some

/-! ## What all of them have in common -/

variable {before after said : List Exchange} {answer : Except Fault Answer} {record : LedgerRecord}
  {result : Except Error LedgerRecord}

/-- The successor, and nothing else, is added, and only when the transaction has begun and has
    changed the old record. -/
theorem Course.of_insert (h : Course old successor said result)
    (split : said = before ++ ⟨.ledger (.insert record), answer⟩ :: after) :
    record = successor ∧ (∃ begun, ⟨.begin, .ok begun⟩ ∈ before)
      ∧ ∃ changed, ⟨.ledger (.invalidate old), .ok changed⟩ ∈ before ∧ 0 < changed.count := by
  cases h <;> simp [List.cons_eq_append_iff] at split
  case notAdded begun changed some fault back
    | notCommitted begun changed added some fault back
    | committed begun changed added done some =>
    obtain ⟨rfl, ⟨rfl, -⟩, -⟩ := split
    exact ⟨rfl, ⟨begun, by simp⟩, changed, by simp, some⟩

/-- The commit comes after the successor was added. -/
theorem Course.of_commit (h : Course old successor said result)
    (split : said = before ++ ⟨.commit, answer⟩ :: after) :
    ∃ added, ⟨.ledger (.insert successor), .ok added⟩ ∈ before := by
  cases h <;> simp [List.cons_eq_append_iff] at split
  case notCommitted begun changed added some fault back
    | committed begun changed added done some =>
    obtain ⟨rfl, -⟩ := split
    exact ⟨added, by simp⟩

/-- Only an acknowledged commit is a success. -/
theorem Course.eq_ok_iff (h : Course old successor said result) :
    result = .ok record ↔ record = successor ∧ ∃ done, ⟨.commit, .ok done⟩ ∈ said := by
  cases h with
  | committed begun changed added done some => simp [eq_comm (a := record)]
  | rejected | notBegun | notUpdated | notSeen | notRolledBack | notAdded | notCommitted => simp

/-- A token is refused only if nothing was changed, the record was looked for, and the transaction
    was rolled back. -/
theorem Course.of_verification {cause : VerificationError}
    (h : Course old successor said result) (refused : result = .error (.verification cause)) :
    ∃ changed seen back, ⟨.ledger (.invalidate old), .ok changed⟩ ∈ said ∧ changed.count = 0
      ∧ ⟨.ledger (.exists old), .ok seen⟩ ∈ said ∧ ⟨.rollback, .ok back⟩ ∈ said
      ∧ (cause = .revoked ∧ seen.found ≠ [] ∨ cause = .unknownToken ∧ seen.found = []) := by
  cases h with
  | rejected begun changed seen back none =>
    refine ⟨changed, seen, back, by simp, none, by simp, by simp, ?_⟩
    obtain rfl := Error.verification.inj (Except.error.inj refused)
    by_cases found : seen.found = [] <;> simp [found]
  | notBegun | notUpdated | notSeen | notRolledBack | notAdded | notCommitted | committed =>
    simp [refusal] at refused

/-- Whatever else happens is a failure of the store. -/
theorem Course.result_cases (h : Course old successor said result) :
    result = .ok successor ∨ result = .error (.verification .revoked)
      ∨ result = .error (.verification .unknownToken) ∨ ∃ text, result = .error (.storage text) := by
  cases h with
  | committed => exact .inl rfl
  | rejected begun changed seen back none => split <;> simp
  | notBegun | notUpdated | notSeen | notRolledBack | notAdded | notCommitted =>
    exact .inr (.inr (.inr ⟨_, rfl⟩))

/-- Rotations keep to the discipline of a transaction, whatever they are answered:
    - The successor is added only after the transaction has begun and at least one record was
      invalidated under the old identifier.
    - The transaction is committed only after that was accepted.
    - The rotation succeeds, with the successor, exactly when the commit was acknowledged.
    - It says that the token is revoked, or unknown, only if no record was invalidated, the look-up
      of the old record found one, or none, and the rollback was acknowledged.
    - Otherwise it says that the store has failed. -/
theorem rotate_is_disciplined (peer : Whim) (old : Uuid) (successor : LedgerRecord) :
    let ended := (rotate old successor).run.run (converse peer) []
    let said := ended.2
    let result := ended.1
    (∀ before after record answer,
        said = before ++ ⟨.ledger (.insert record), answer⟩ :: after →
          record = successor ∧ (∃ begun, ⟨.begin, .ok begun⟩ ∈ before)
            ∧ ∃ changed, ⟨.ledger (.invalidate old), .ok changed⟩ ∈ before ∧ 0 < changed.count)
      ∧ (∀ before after answer, said = before ++ ⟨.commit, answer⟩ :: after →
        ∃ added, ⟨.ledger (.insert successor), .ok added⟩ ∈ before)
      ∧ (∀ record, result = .ok record
        ↔ record = successor ∧ ∃ done, ⟨.commit, .ok done⟩ ∈ said)
      ∧ (∀ cause, result = .error (.verification cause) →
        ∃ changed seen back, ⟨.ledger (.invalidate old), .ok changed⟩ ∈ said ∧ changed.count = 0
          ∧ ⟨.ledger (.exists old), .ok seen⟩ ∈ said ∧ ⟨.rollback, .ok back⟩ ∈ said
          ∧ (cause = .revoked ∧ seen.found ≠ [] ∨ cause = .unknownToken ∧ seen.found = []))
      ∧ (result = .ok successor ∨ result = .error (.verification .revoked)
        ∨ result = .error (.verification .unknownToken) ∨ ∃ text, result = .error (.storage text))
      ∧ ∀ e, result = .error e → ∀ done, ⟨.commit, .ok done⟩ ∉ said := by
  intro ended said result
  have course : Course old successor said result := course_rotate peer old successor
  refine ⟨fun _ _ _ _ split => course.of_insert split, fun _ _ _ split => course.of_commit split,
    fun _ => course.eq_ok_iff, fun _ refused => course.of_verification refused,
    course.result_cases, fun e failed done committed => ?_⟩
  have succeeded := course.eq_ok_iff.2 ⟨rfl, done, committed⟩
  rw [failed] at succeeded
  cases succeeded

end TokenLedger

end Latchkey.Database

import Latchkey.Proofs.Ledger.Spending
import Latchkey.Proofs.Session.Race

set_option autoImplicit false

/-! # Who is credited with a record

Callers learn from their answers which records they have spent, and no record is spent by two of
them, however their turns are interleaved. A call that looks for the record of its token too late is
told so, and changes nothing. -/

namespace Latchkey

namespace FlowCall

/-- A result that says that the call has spent the record of its token. -/
def Wins (id : Uuid) : (call : FlowCall) → Option (Except Error call.Value) → Prop
  | .renew _ token, some (.ok _) => Compact.recordOf? token = some id
  | .revoke _ token, some (.ok found) => found = true ∧ Compact.recordOf? token = some id
  | _, _ => False

/-- How many records a result says that the call has spent, if it was for all of a user's. -/
def counted? : (call : FlowCall) → Option (Except Error call.Value) → Option Nat
  | .revokeAll _, some (.ok n) => some n
  | _, _ => none

variable {flow : RefreshFlow} {call : FlowCall} {ledger : Ledger} {write : LedgerCall}
  {finish : Except Error write.Answer → Except Error call.Value}

theorem not_wins_none (call : FlowCall) (id : Uuid) : ¬ call.Wins id none := by
  cases call <;> exact fun wins => wins

theorem counted?_none (call : FlowCall) : call.counted? none = none := by
  cases call <;> rfl

theorem Idle.not_wins {result : Except Error call.Value} (h : call.Idle result) (id : Uuid) :
    ¬ call.Wins id (some result) := by
  match call, result, h with
  | .issue _ _ _, .error _, _ => exact fun wins => wins
  | .renew _ _, .error _, _ => exact fun wins => wins
  | .revoke _ _, .error _, _ => exact fun wins => wins
  | .revokeAll _, .error _, _ => exact fun wins => wins
  | .revoke _ _, .ok _, h => exact fun wins => Bool.false_ne_true (h.symm.trans wins.1)

theorem Idle.counted?_eq_none {result : Except Error call.Value} (h : call.Idle result) :
    call.counted? (some result) = none := by
  match call, result, h with
  | .issue _ _ _, .error _, _ => rfl
  | .renew _ _, .error _, _ => rfl
  | .revoke _ _, .error _, _ => rfl
  | .revokeAll _, .error _, _ => rfl
  | .revoke _ _, .ok _, _ => rfl

/-- A write spends what its answer makes the call win, or counts. -/
theorem Writes.spends_iff (h : Writes flow ledger call write finish) (fault : Option Error)
    (id : Uuid) :
    ledger.Spends (ledger.respond fault write).2 id
      ↔ call.Wins id (some (finish (ledger.respond fault write).1))
        ∨ (call.counted? (some (finish (ledger.respond fault write).1))).isSome = true
          ∧ ledger.Spends (ledger.respond fault write).2 id := by
  cases fault with
  | some error =>
    cases h <;> simp [Ledger.respond, Ledger.not_spends_self, Wins, Except.map]
  | none =>
    cases h with
    | issue m userId custom algorithm issued signed =>
      simp [Ledger.respond, Ledger.not_spends_create, Wins]
    | renew m token old r custom algorithm issued names found owns signed =>
      simp only [Ledger.respond, Ledger.spends_rotate_iff]
      cases rotated : (ledger.rotate old (flow.newRecord m r.userId)) with
      | error e => simp [Ledger.answer, rotated, Except.map, Wins]
      | ok l => simp [Ledger.answer, rotated, Except.map, Wins, counted?, names, eq_comm]
    | revoke now token old r names found owns =>
      simp only [Ledger.respond, Ledger.spends_invalidate_iff]
      simp only [Ledger.answer, id_eq, Wins, counted?, names, Except.ok.injEq, Option.some.injEq,
        Option.isSome_none, Bool.false_eq_true, false_and, or_false]
      rw [and_comm, eq_comm (a := id)]
    | revokeAll userId =>
      exact ⟨fun spends => .inr ⟨rfl, spends⟩, fun h => h.elim False.elim And.right⟩

/-- A write for all records of a user is answered with their number. -/
theorem Writes.counted_eq_length (h : Writes flow ledger call write finish)
    (fault : Option Error) {n : Nat}
    (counted : call.counted? (some (finish (ledger.respond fault write).1)) = some n) :
    ∃ ids : List Uuid, ids.Nodup ∧ ids.length = n
      ∧ ∀ id, id ∈ ids ↔ ledger.Spends (ledger.respond fault write).2 id := by
  cases h with
  | issue => simp [counted?] at counted
  | renew => simp [counted?] at counted
  | revoke => simp [counted?] at counted
  | revokeAll userId =>
    cases fault with
    | some error => simp [Ledger.respond, counted?] at counted
    | none =>
      simp only [Ledger.respond, Ledger.answer, id_eq, counted?, Option.some.injEq] at counted
      exact ⟨ledger.validIdsOf userId, ledger.nodup_validIdsOf userId,
        (ledger.length_validIdsOf userId).trans counted,
        fun id => Ledger.spends_invalidateAll_iff.symm⟩

end FlowCall

namespace FlowRace

variable {ι : Type} [DecidableEq ι] {calls : ι → FlowCall}

/-! ## Who spends a record -/

/-- In one of the turns of a caller, a record stops being valid. -/
def Spends (race : FlowRace calls) (schedule : List (Turn ι)) (i : ι) (id : Uuid) : Prop :=
  ∃ pre t, pre ++ [t] <+: schedule ∧ t.caller = i
    ∧ (race.after pre).ledger.Spends (race.after (pre ++ [t])).ledger id

/-- A caller has consumed a record by what it was answered: its result says so, or counts it. -/
def Credited (race : FlowRace calls) (schedule : List (Turn ι)) (i : ι) (id : Uuid) : Prop :=
  (calls i).Wins id ((race.after schedule).result? i)
    ∨ ((calls i).counted? ((race.after schedule).result? i)).isSome = true
      ∧ race.Spends schedule i id

variable {flow : RefreshFlow} {w : World} {i j : ι} {race : FlowRace calls} {t : Turn ι}
  {schedule pre : List (Turn ι)} {id : Uuid}

theorem Quiet.not_spends (quiet : race.Quiet i schedule) : ¬ race.Spends schedule i id := by
  rintro ⟨pre, t, happened, own, spends⟩
  rw [quiet pre t happened own] at spends
  exact Ledger.not_spends_self _ _ spends

theorem Wrote.spends_iff {write : LedgerCall}
    {finish : Except Error write.Answer → Except Error (calls i).Value}
    (wrote : race.Wrote flow schedule i pre t write finish) :
    race.Spends schedule i id ↔ (race.after pre).ledger.Spends
      ((race.after pre).ledger.respond t.fault write).2 id := by
  rw [← wrote.moved]
  constructor
  · rintro ⟨pre', t', happened, own, spends⟩
    by_cases same : pre' = pre
    · subst same
      have turns : [t'] = [t] := by
        have ⟨_, before⟩ := wrote.happened
        have ⟨_, before'⟩ := happened
        simp only [← before, List.append_assoc, List.append_cancel_left_eq] at before'
        simpa using (List.cons.inj before').1
      rwa [turns] at spends
    · rw [wrote.quiet pre' t' happened own same] at spends
      exact absurd spends (Ledger.not_spends_self _ _)
  · exact fun spends => ⟨pre, t, wrote.happened, wrote.caller, spends⟩

/-- Callers are credited with exactly the records that they spend. -/
theorem credited_iff_spends (flow : RefreshFlow) (calls : ι → FlowCall) (w : World)
    (schedule : List (Turn ι)) (i : ι) (id : Uuid) :
    (start flow calls w).Credited schedule i id ↔ (start flow calls w).Spends schedule i id := by
  rcases standing flow calls w schedule i with ⟨pending, quiet⟩ | ⟨pre, t, write, finish, wrote⟩
  -- Without a write, a call has spent nothing, and does not answer as if it had.
  · refine iff_of_false ?_ quiet.not_spends
    unfold Credited
    cases ended : ((start flow calls w).after schedule).result? i with
    | none => simp [FlowCall.not_wins_none, FlowCall.counted?_none]
    | some result =>
      rw [Race.result?_eq_some_iff.1 ended] at pending
      simp [FlowCall.Idle.not_wins pending, FlowCall.Idle.counted?_eq_none pending]
  · unfold Credited
    rw [Race.result?_eq_some_iff.2 wrote.ended, wrote.spends_iff]
    exact (wrote.writes.spends_iff t.fault id).symm

/-- A record that was spent in one turn is not valid before any later turn. -/
theorem hasValid_eq_false_of_spends {later : List (Turn ι)} (before : pre ++ [t] <+: later)
    (spends : (race.after pre).ledger.Spends (race.after (pre ++ [t])).ledger id) :
    (race.after later).ledger.hasValid id = false := by
  have present := Ledger.mem_ids_of_le (Race.ledger_le_of_prefix (List.prefix_append pre [t]))
    (Ledger.mem_ids_of_hasValid spends.1)
  exact Ledger.hasValid_eq_false_of_le (Race.ledger_le_of_prefix before) present spends.2

/-- No record is spent by two callers. -/
theorem spender_unique (spends : race.Spends schedule i id) (spends' : race.Spends schedule j id) :
    i = j := by
  obtain ⟨pre, t, happened, rfl, first⟩ := spends
  obtain ⟨pre', t', happened', rfl, second⟩ := spends'
  -- Of two turns of a schedule one comes first, and what it spends is not there for the other.
  rcases List.prefix_or_prefix_of_prefix happened happened' with before | before
  · rcases List.prefix_concat_iff.1 before with same | before
    · rw [(List.append_singleton_inj.1 same).2]
    · exact absurd second.1 (Bool.eq_false_iff.1 (hasValid_eq_false_of_spends before first))
  · rcases List.prefix_concat_iff.1 before with same | before
    · rw [(List.append_singleton_inj.1 same).2]
    · exact absurd first.1 (Bool.eq_false_iff.1 (hasValid_eq_false_of_spends before second))

/-- A record that was valid and no longer is has been spent by a caller. -/
theorem exists_spender (spent : race.ledger.Spends (race.after schedule).ledger id) :
    ∃ i, race.Spends schedule i id := by
  induction schedule using List.reverseRecOn with
  | nil => exact absurd spent (Ledger.not_spends_self _ _)
  | append_singleton schedule t ih =>
    cases still : (race.after schedule).ledger.hasValid id with
    | true => exact ⟨t.caller, schedule, t, List.prefix_refl _, rfl, still, spent.2⟩
    | false =>
      obtain ⟨i, pre, t', happened, own, spends⟩ := ih ⟨spent.1, still⟩
      exact ⟨i, pre, t', happened.trans (List.prefix_append _ _), own, spends⟩

/-- A call for all records of a user answers how many it has spent. -/
theorem counted_eq_length (flow : RefreshFlow) (calls : ι → FlowCall) (w : World)
    (schedule : List (Turn ι)) (i : ι) {n : Nat}
    (counted : (calls i).counted? (((start flow calls w).after schedule).result? i) = some n) :
    ∃ ids : List Uuid, ids.Nodup ∧ ids.length = n
      ∧ ∀ id, id ∈ ids ↔ (start flow calls w).Spends schedule i id := by
  obtain ⟨pre, t, write, finish, wrote, counted⟩ := wrote_of_result flow calls w schedule i
    (P := fun result => (calls i).counted? result = some n) (by simp [FlowCall.counted?_none])
    (fun result idle => by simp [FlowCall.Idle.counted?_eq_none idle]) counted
  obtain ⟨ids, distinct, length, members⟩ := wrote.writes.counted_eq_length t.fault counted
  exact ⟨ids, distinct, length, fun id => by rw [members, wrote.spends_iff]⟩

/-! ## Who comes too late -/

/-- In a turn that is not made to fail, a caller asks the ledger when the record of its token, which
    is its user's, is not valid. -/
def Late (race : FlowRace calls) (schedule : List (Turn ι)) (i : ι) : Prop :=
  ∃ pre t, pre ++ [t] <+: schedule ∧ t.caller = i ∧ t.fault = none
    ∧ ∃ lookup next, (race.after pre).rest i = .ask (.ledger lookup) next
    ∧ ∃ token id r, (calls i).token? = some token ∧ Compact.recordOf? token = some id
      ∧ Compact.userOf? token = some r.userId ∧ (race.after pre).ledger.find? id = some r
      ∧ r.isValid = false

/-- A call that comes too late is answered so, and has changed nothing. -/
theorem lost_of_late (flow : RefreshFlow) (calls : ι → FlowCall) (w : World)
    (schedule : List (Turn ι)) (i : ι) (late : (start flow calls w).Late schedule i) :
    ((start flow calls w).after schedule).result? i = some (calls i).lost
      ∧ (start flow calls w).Quiet i schedule := by
  obtain ⟨pre, t, happened, rfl, calm, lookup, next, asks, token, id, r, presents, names, owns,
    found, invalid⟩ := late
  rcases standing flow calls w pre t.caller with ⟨pending, quiet⟩ | ⟨_, _, _, _, wrote⟩
  · rw [asks] at pending
    obtain ⟨answered, same⟩ := pending.lost_of_invalid presents names owns found invalid
    have ended : ((start flow calls w).after (pre ++ [t])).rest t.caller
        = .done (calls t.caller).lost := by
      rw [Race.after_append, Race.after_cons, Race.after_nil, Race.rest_turn_of_ask asks, calm]
      exact answered
    have unmoved : ((start flow calls w).after (pre ++ [t])).ledger
        = ((start flow calls w).after pre).ledger := by
      rw [Race.after_append, Race.after_cons, Race.after_nil, Race.ledger,
        Race.world_turn_of_ask asks, calm]
      exact same
    refine ⟨Race.result?_eq_some_iff.2 ?_, fun pre' t' happened' own => ?_⟩
    · obtain ⟨post, rfl⟩ := happened
      rw [Race.after_append]
      exact Race.rest_after_of_done ended
    -- A turn of the caller is before the one that it lost in, or that one, or after its end.
    · rcases List.prefix_or_prefix_of_prefix happened' happened with before | after
      · rcases Race.prefix_concat_iff.1 before with ⟨rfl, rfl⟩ | before
        · exact unmoved
        · exact quiet pre' t' before own
      · rcases Race.prefix_concat_iff.1 after with ⟨rfl, rfl⟩ | ⟨post, rfl⟩
        · exact unmoved
        · have still : ((start flow calls w).after (pre ++ [t] ++ post)).rest t.caller
              = .done (calls t.caller).lost := by
            rw [Race.after_append]
            exact Race.rest_after_of_done ended
          rw [Race.after_append, Race.after_cons, Race.after_nil, Race.turn_of_done still own]
  · exact absurd (asks.symm.trans wrote.ended) (by simp)

end FlowRace

end Latchkey

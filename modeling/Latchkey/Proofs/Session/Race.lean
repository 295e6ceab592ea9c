import Latchkey.Proofs.Session.Call
import Mathlib.Data.List.Induction
import Mathlib.Logic.Function.Basic

set_option autoImplicit false

/-! # Calls that run at the same time

A race is any number of programs over one world. The callers take turns in any order, and each turn
answers one request of one of them, so that a schedule is a list of turns. The point of the file is
`FlowRace.standing`: in a race between calls of the refresh flow, each call changes the ledger in
one turn at most, which is its last, and there it does what the call can write. -/

namespace Latchkey

/-- A turn of one caller. Its request is made to fail if there is an error for that. -/
structure Turn (ι : Type) where
  caller : ι
  fault : Option Error
  draw : Draw

/-- Programs in progress, and the world that they share. -/
structure Race {ι : Type} (α : ι → Type) where
  world : World
  rest : (i : ι) → Program Request Request.Answer (α i)

namespace Race

variable {ι : Type} {α : ι → Type}

/-- The result of a program that has ended. -/
def result? (race : Race α) (i : ι) : Option (α i) :=
  match race.rest i with
  | .done result => some result
  | .ask _ _ => none

theorem result?_eq_some_iff {race : Race α} {i : ι} {result : α i} :
    race.result? i = some result ↔ race.rest i = .done result := by
  unfold result?
  cases race.rest i <;> simp

/-- The ledger of the shared world. -/
abbrev ledger (race : Race α) : Ledger :=
  race.world.ledger

variable [DecidableEq ι]

/-- Answers the caller's next request; nothing happens if it has ended. -/
def turn (race : Race α) (t : Turn ι) : Race α :=
  match race.rest t.caller with
  | .done _ => race
  | .ask request next =>
    let (answer, world) := race.world.respond t.fault t.draw request
    ⟨world, Function.update race.rest t.caller (next answer)⟩

/-- The race after the turns of a schedule. -/
def after (race : Race α) (schedule : List (Turn ι)) : Race α :=
  schedule.foldl turn race

@[simp] theorem after_nil (race : Race α) : race.after [] = race := rfl

@[simp] theorem after_cons (race : Race α) (t : Turn ι) (schedule : List (Turn ι)) :
    race.after (t :: schedule) = (race.turn t).after schedule := rfl

@[simp] theorem after_append (race : Race α) (pre post : List (Turn ι)) :
    race.after (pre ++ post) = (race.after pre).after post :=
  List.foldl_append

/-- The last turn of a schedule, or an earlier one. -/
theorem prefix_concat_iff {τ : Type} {pre schedule : List τ} {t last : τ} :
    pre ++ [t] <+: schedule ++ [last] ↔ pre = schedule ∧ t = last ∨ pre ++ [t] <+: schedule := by
  rw [List.prefix_concat_iff, List.append_singleton_inj]

/-! ## One turn -/

variable {race start : Race α} {t : Turn ι} {i : ι} {schedule pre : List (Turn ι)}

theorem turn_of_done {result : α i} (h : race.rest i = .done result) (mine : t.caller = i) :
    race.turn t = race := by
  subst mine
  simp [turn, h]

theorem world_turn_of_ask {request : Request}
    {next : request.Answer → Program Request Request.Answer (α t.caller)}
    (h : race.rest t.caller = .ask request next) :
    (race.turn t).world = (race.world.respond t.fault t.draw request).2 := by
  simp [turn, h]

theorem rest_turn_of_ask {request : Request}
    {next : request.Answer → Program Request Request.Answer (α t.caller)}
    (h : race.rest t.caller = .ask request next) :
    (race.turn t).rest t.caller = next (race.world.respond t.fault t.draw request).1 := by
  simp [turn, h]

theorem rest_turn_of_ne (other : i ≠ t.caller) : (race.turn t).rest i = race.rest i := by
  unfold turn
  split
  · rfl
  · exact Function.update_of_ne other _ _

/-! ## Whatever happens -/

theorem ledger_le_turn (race : Race α) (t : Turn ι) : race.ledger ≤ (race.turn t).ledger := by
  cases h : race.rest t.caller with
  | done result => rw [turn_of_done h rfl]; exact race.ledger.le_refl
  | ask request next =>
    show race.ledger ≤ (race.turn t).world.ledger
    rw [world_turn_of_ask h]
    exact race.world.ledger_le_respond t.fault t.draw request

theorem ledger_le_after (race : Race α) (schedule : List (Turn ι)) :
    race.ledger ≤ (race.after schedule).ledger := by
  induction schedule generalizing race with
  | nil => exact race.ledger.le_refl
  | cons t schedule ih => exact Ledger.le_trans (race.ledger_le_turn t) (ih _)

theorem ledger_le_of_prefix (h : pre <+: schedule) :
    (start.after pre).ledger ≤ (start.after schedule).ledger := by
  obtain ⟨post, rfl⟩ := h
  rw [after_append]
  exact ledger_le_after _ post

theorem rest_after_of_done {result : α i} (h : race.rest i = .done result) :
    (race.after schedule).rest i = .done result := by
  induction schedule generalizing race with
  | nil => exact h
  | cons t schedule ih =>
    refine ih ?_
    by_cases mine : t.caller = i
    · rwa [turn_of_done h mine]
    · rwa [rest_turn_of_ne (Ne.symm mine)]

end Race

/-! ## Races between calls of the flow -/

/-- Calls of the flow in progress. -/
abbrev FlowRace {ι : Type} (calls : ι → FlowCall) : Type :=
  Race fun i => Except Error (calls i).Value

namespace FlowRace

variable {ι : Type} {calls : ι → FlowCall}

/-- All calls at their beginning. -/
def start (flow : RefreshFlow) (calls : ι → FlowCall) (w : World) : FlowRace calls :=
  ⟨w, fun i => ((calls i).operation flow).run⟩

variable [DecidableEq ι]

/-- Between two schedules, of which one extends the other, a caller leaves the ledger alone. -/
def Quiet (race : FlowRace calls) (i : ι) (schedule : List (Turn ι)) : Prop :=
  ∀ pre t, pre ++ [t] <+: schedule → t.caller = i →
    (race.after (pre ++ [t])).ledger = (race.after pre).ledger

/-- A call wrote in the turn `t`, as which it had `write` left, and has ended with that. -/
structure Wrote (flow : RefreshFlow) (race : FlowRace calls) (schedule : List (Turn ι)) (i : ι)
    (pre : List (Turn ι)) (t : Turn ι) (write : LedgerCall)
    (finish : Except Error write.Answer → Except Error (calls i).Value) : Prop where
  happened : pre ++ [t] <+: schedule
  caller : t.caller = i
  writes : (calls i).Writes flow (race.after pre).ledger write finish
  ended : (race.after schedule).rest i
    = .done (finish ((race.after pre).ledger.respond t.fault write).1)
  moved : (race.after (pre ++ [t])).ledger = ((race.after pre).ledger.respond t.fault write).2
  quiet : ∀ pre' t', pre' ++ [t'] <+: schedule → t'.caller = i → pre' ≠ pre →
    (race.after (pre' ++ [t'])).ledger = (race.after pre').ledger

variable {flow : RefreshFlow} {w : World} {i : ι} {race : FlowRace calls} {t : Turn ι}
  {schedule pre : List (Turn ι)}

/-- One turn of a caller that has not written: it goes on without writing, or writes and ends. -/
theorem turn_of_pending (h : (calls t.caller).Pending flow (race.rest t.caller) race.ledger) :
    ((race.turn t).world = race.world
        ∧ (calls t.caller).Pending flow ((race.turn t).rest t.caller) race.ledger)
      ∨ ∃ write finish, (calls t.caller).Writes flow race.ledger write finish
        ∧ (race.turn t).rest t.caller = .done (finish (race.ledger.respond t.fault write).1)
        ∧ (race.turn t).world
          = { race.world with ledger := (race.ledger.respond t.fault write).2 } := by
  cases asks : race.rest t.caller with
  | done result =>
    rw [Race.turn_of_done asks rfl]
    exact .inl ⟨rfl, h⟩
  | ask request next =>
    rw [asks] at h
    rw [Race.world_turn_of_ask asks, Race.rest_turn_of_ask asks]
    exact h.respond t.fault t.draw

/-- Each call either has not written yet, or has ended with its only write. -/
theorem standing (flow : RefreshFlow) (calls : ι → FlowCall) (w : World)
    (schedule : List (Turn ι)) (i : ι) :
    let race := start flow calls w
    ((calls i).Pending flow ((race.after schedule).rest i) (race.after schedule).ledger
        ∧ race.Quiet i schedule)
      ∨ ∃ pre t write finish, race.Wrote flow schedule i pre t write finish := by
  intro race
  induction schedule using List.reverseRecOn with
  | nil => exact .inl ⟨(calls i).pending_operation flow _, fun pre t h => by simp at h⟩
  | append_singleton schedule t ih =>
    rw [Race.after_append, Race.after_cons, Race.after_nil]
    rcases ih with ⟨pending, quiet⟩ | ⟨pre, t', write, finish, wrote⟩
    -- Before the call has written, the new turn is its write, or one of its reads, or another's.
    · by_cases mine : t.caller = i
      · subst mine
        rcases turn_of_pending pending with ⟨same, rest⟩ | ⟨write, finish, writes, ends, moved⟩
        · refine .inl ⟨by simpa only [Race.ledger, same] using rest, fun pre t' h own => ?_⟩
          rcases Race.prefix_concat_iff.1 h with ⟨rfl, rfl⟩ | h
          · simp [Race.ledger, same]
          · exact quiet pre t' h own
        · refine .inr ⟨schedule, t, write, finish, List.prefix_refl _, rfl, writes,
            by simpa using ends, by simp [Race.ledger, moved], fun pre t' h own differs => ?_⟩
          rcases Race.prefix_concat_iff.1 h with ⟨rfl, rfl⟩ | h
          · exact absurd rfl differs
          · exact quiet pre t' h own
      · refine .inl ⟨?_, fun pre t' h own => ?_⟩
        · rw [Race.rest_turn_of_ne (Ne.symm mine)]
          exact pending.mono (Race.ledger_le_turn _ t)
        · rcases Race.prefix_concat_iff.1 h with ⟨rfl, rfl⟩ | h
          · exact absurd own mine
          · exact quiet pre t' h own
    -- After that it has ended, and a turn of its own does nothing.
    · refine .inr ⟨pre, t', write, finish, wrote.happened.trans (List.prefix_append _ _),
        wrote.caller, wrote.writes, ?_, wrote.moved, fun pre' t'' h own differs => ?_⟩
      · rw [Race.after_append]
        exact Race.rest_after_of_done wrote.ended
      · rcases Race.prefix_concat_iff.1 h with ⟨rfl, rfl⟩ | h
        · rw [Race.after_append, Race.after_cons, Race.after_nil, Race.turn_of_done wrote.ended own]
        · exact wrote.quiet pre' t'' h own differs

/-- What a call can only answer when it has written, it answers to its write. -/
theorem wrote_of_result (flow : RefreshFlow) (calls : ι → FlowCall) (w : World)
    (schedule : List (Turn ι)) (i : ι) {P : Option (Except Error (calls i).Value) → Prop}
    (running : ¬ P none) (idle : ∀ result, (calls i).Idle result → ¬ P (some result))
    (h : P (((start flow calls w).after schedule).result? i)) :
    ∃ pre t write finish, (start flow calls w).Wrote flow schedule i pre t write finish
      ∧ P (some (finish (((start flow calls w).after pre).ledger.respond t.fault write).1)) := by
  rcases standing flow calls w schedule i with ⟨pending, -⟩ | ⟨pre, t, write, finish, wrote⟩
  · cases ended : ((start flow calls w).after schedule).result? i with
    | none => exact absurd (ended ▸ h) running
    | some result =>
      rw [Race.result?_eq_some_iff.1 ended] at pending
      exact absurd (ended ▸ h) (idle result pending)
  · rw [Race.result?_eq_some_iff.2 wrote.ended] at h
    exact ⟨pre, t, write, finish, wrote, h⟩

end FlowRace

end Latchkey

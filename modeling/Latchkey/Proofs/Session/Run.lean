import Latchkey.Proofs.Session.OneWinner

set_option autoImplicit false

/-! # Runs

While calls take their turns, time passes and keys are made, retired and replaced. A run is a list
of events, of which each is a turn or changes anything of the world but the ledger. In a run, as in
a race, a call writes in one turn at most, and that is its last (`FlowRace.pending_or_done`). -/

namespace Latchkey

/-- An event of a run: a turn of a caller, or a change of the clock and the keys. -/
inductive Event (ι : Type)
  | turn (t : Turn ι)
  | change (clock : Instant) (signing : Pool SigningMaterial) (encryption : Pool EncryptionMaterial)

namespace Race

variable {ι : Type} [DecidableEq ι] {α : ι → Type}

/-- The race after one event. -/
def happen (race : Race α) : Event ι → Race α
  | .turn t => race.turn t
  | .change clock signing encryption => ⟨⟨clock, signing, encryption, race.ledger⟩, race.rest⟩

/-- The race after the events of a run. -/
def during (race : Race α) (events : List (Event ι)) : Race α :=
  events.foldl happen race

@[simp] theorem during_nil (race : Race α) : race.during [] = race := rfl

@[simp] theorem during_append (race : Race α) (pre post : List (Event ι)) :
    race.during (pre ++ post) = (race.during pre).during post :=
  List.foldl_append

/-- In a race nothing but turns happens. -/
theorem after_eq_during (race : Race α) (schedule : List (Turn ι)) :
    race.after schedule = race.during (schedule.map .turn) := by
  rw [during, List.foldl_map]
  rfl

theorem during_concat (race : Race α) (pre : List (Event ι)) (e : Event ι) :
    race.during (pre ++ [e]) = (race.during pre).happen e := by
  rw [during_append]
  rfl

variable {race : Race α} {e : Event ι} {pre events : List (Event ι)} {i : ι}

theorem ledger_le_happen (race : Race α) (e : Event ι) : race.ledger ≤ (race.happen e).ledger := by
  cases e with
  | turn t => exact race.ledger_le_turn t
  | change clock signing encryption => exact race.ledger.le_refl

theorem ledger_le_during (le : pre <+: events) :
    (race.during pre).ledger ≤ (race.during events).ledger := by
  obtain ⟨post, rfl⟩ := le
  induction post using List.reverseRecOn with
  | nil => rw [List.append_nil]; exact Ledger.le_refl _
  | append_singleton post e ih =>
    rw [← List.append_assoc, during_concat]
    exact Ledger.le_trans ih (ledger_le_happen _ e)

/-- Nothing but its own turns moves a caller. -/
theorem rest_happen_of_ne (other : ∀ t, e = .turn t → i ≠ t.caller) :
    (race.happen e).rest i = race.rest i := by
  cases e with
  | turn t => exact rest_turn_of_ne (other t rfl)
  | change clock signing encryption => rfl

theorem rest_during_of_ne (others : ∀ t, .turn t ∈ events → t.caller ≠ i) :
    (race.during events).rest i = race.rest i := by
  induction events using List.reverseRecOn with
  | nil => rfl
  | append_singleton events e ih =>
    rw [during_concat, rest_happen_of_ne fun t same => ?_,
      ih fun t mem => others t (List.mem_append_left _ mem)]
    exact (others t (by simp [same])).symm

theorem rest_happen_of_done {result : α i} (h : race.rest i = .done result) :
    (race.happen e).rest i = .done result := by
  cases e with
  | turn t =>
    by_cases mine : t.caller = i
    · rwa [happen, turn_of_done h mine]
    · rwa [happen, rest_turn_of_ne (Ne.symm mine)]
  | change clock signing encryption => exact h

theorem rest_during_of_done {result : α i} (le : pre <+: events)
    (h : (race.during pre).rest i = .done result) : (race.during events).rest i = .done result := by
  obtain ⟨post, rfl⟩ := le
  induction post using List.reverseRecOn with
  | nil => rwa [List.append_nil]
  | append_singleton post e ih =>
    rw [← List.append_assoc, during_concat]
    exact rest_happen_of_done ih

/-- A caller that takes all its turns in a row, with nothing failing, runs as if it were alone. -/
theorem during_replicate_turn (race : Race α) (i : ι) {n : Nat} (within : (race.rest i).Within n)
    (draw : Draw) :
    let alone := (race.rest i).run (World.answer draw) race.world
    (race.during (List.replicate n (.turn ⟨i, none, draw⟩))).rest i = .done alone.1
      ∧ (race.during (List.replicate n (.turn ⟨i, none, draw⟩))).world = alone.2 := by
  induction n generalizing race with
  | zero =>
    cases asks : race.rest i with
    | done result => exact ⟨asks, rfl⟩
    | ask request next =>
      rw [asks] at within
      exact within.elim
  | succ n ih =>
    have first : race.during (List.replicate (n + 1) (.turn ⟨i, none, draw⟩))
        = (race.turn ⟨i, none, draw⟩).during (List.replicate n (.turn ⟨i, none, draw⟩)) := rfl
    rw [first]
    cases asks : race.rest i with
    | done result =>
      have ended := ih race (by rw [asks]; exact Program.within_done _ _)
      rw [asks] at ended
      rwa [turn_of_done asks rfl]
    | ask request next =>
      have rest : (race.turn ⟨i, none, draw⟩).rest i
          = next (World.answer draw request race.world).1 := rest_turn_of_ask asks
      have world : (race.turn ⟨i, none, draw⟩).world = (World.answer draw request race.world).2 :=
        world_turn_of_ask asks
      rw [asks] at within
      have others := ih (race.turn ⟨i, none, draw⟩) (by rw [rest]; exact within _)
      rwa [rest, world] at others

/-- Of two callers that take all their turns one after the other, the second runs in the world that
    the first has left. -/
theorem during_one_after_other {j : ι} (apart : i ≠ j) {n n' : Nat}
    (within : (race.rest i).Within n) (within' : (race.rest j).Within n') {draw : Draw}
    {first : α i} {second : α j} {w w' : World}
    (runs : (race.rest i).run (World.answer draw) race.world = (first, w))
    (runs' : (race.rest j).run (World.answer draw) w = (second, w')) :
    let ended := race.during (List.replicate n (.turn ⟨i, none, draw⟩)
      ++ List.replicate n' (.turn ⟨j, none, draw⟩))
    ended.rest i = .done first ∧ ended.rest j = .done second ∧ ended.world = w' := by
  obtain ⟨ends, world⟩ := race.during_replicate_turn i within draw
  rw [runs] at ends world
  have waits : (race.during (List.replicate n (.turn ⟨i, none, draw⟩))).rest j = race.rest j := by
    refine rest_during_of_ne fun t mem => ?_
    rw [Event.turn.inj (List.eq_of_mem_replicate mem)]
    exact apart
  have others := (race.during (List.replicate n (.turn ⟨i, none, draw⟩))).during_replicate_turn j
    (by rwa [waits]) draw
  rw [waits, world, runs', ← during_append] at others
  exact ⟨rest_during_of_done (List.prefix_append _ _) ends, others⟩

theorem result?_during_of_prefix {result : α i} (le : pre <+: events)
    (ended : (race.during pre).result? i = some result) :
    (race.during events).result? i = some result :=
  result?_eq_some_iff.2 (rest_during_of_done le (result?_eq_some_iff.1 ended))

end Race

namespace FlowCall

variable {call : FlowCall} {id : Uuid} {result : Option (Except Error call.Value)} {token : String}

/-- What a call wins with a token is the record that the token names. -/
theorem Wins.recordOf?_eq (wins : call.Wins id result) (presents : call.token? = some token) :
    Compact.recordOf? token = some id := by
  match call, result, wins, presents with
  | .renew _ _, some (.ok _), wins, rfl => exact wins
  | .revoke _ _, some (.ok _), wins, rfl => exact wins.2

/-- A call that presents a token is not one for all records of a user. -/
theorem counted?_of_token? (presents : call.token? = some token) : call.counted? result = none := by
  cases call <;> first | rfl | simp [token?] at presents

end FlowCall

namespace FlowRace

variable {ι : Type} [DecidableEq ι] {calls : ι → FlowCall} {flow : RefreshFlow} {w : World}
  {events pre : List (Event ι)} {i : ι} {t : Turn ι} {id : Uuid}

/-- Each call has its write still before it, or it has ended. -/
theorem pending_or_done (flow : RefreshFlow) (calls : ι → FlowCall) (w : World)
    (events : List (Event ι)) (i : ι) :
    let race := (start flow calls w).during events
    (calls i).Pending flow (race.rest i) race.ledger ∨ ∃ result, race.rest i = .done result := by
  induction events using List.reverseRecOn with
  | nil => exact .inl ((calls i).pending_operation flow _)
  | append_singleton events e ih =>
    rw [Race.during_concat]
    rcases ih with pending | ⟨result, ended⟩
    · cases e with
      | change clock signing encryption => exact .inl pending
      | turn t =>
        by_cases mine : t.caller = i
        · subst mine
          rcases turn_of_pending pending with ⟨same, rest⟩ | ⟨write, finish, -, ends, -⟩
          · exact .inl (by simpa only [Race.happen, Race.ledger, same] using rest)
          · exact .inr ⟨_, ends⟩
        · refine .inl ?_
          rw [Race.happen, Race.rest_turn_of_ne (Ne.symm mine)]
          exact pending.mono (Race.ledger_le_turn _ t)
    · exact .inr ⟨result, Race.rest_happen_of_done ended⟩

/-- In one of its turns a caller makes a record invalid. -/
def Invalidates (race : FlowRace calls) (events : List (Event ι)) (i : ι) (id : Uuid) : Prop :=
  ∃ pre t, pre ++ [.turn t] <+: events ∧ t.caller = i
    ∧ (race.during pre).ledger.Spends (race.during (pre ++ [.turn t])).ledger id

/-- A call that presents a token can make no other record invalid than the one that the token
    names. -/
theorem Invalidates.recordOf?_eq {token : String} (presents : (calls i).token? = some token)
    (h : (start flow calls w).Invalidates events i id) : Compact.recordOf? token = some id := by
  obtain ⟨pre, t, -, rfl, spends⟩ := h
  rw [Race.during_concat, Race.happen] at spends
  rcases pending_or_done flow calls w pre t.caller with pending | ⟨result, ended⟩
  · rcases turn_of_pending pending with ⟨same, -⟩ | ⟨write, finish, writes, -, moved⟩
    · rw [Race.ledger, Race.ledger, same] at spends
      exact absurd spends (Ledger.not_spends_self _ _)
    · rw [Race.ledger, Race.ledger, moved] at spends
      rcases (writes.spends_iff t.fault id).1 spends with wins | ⟨counted, -⟩
      · exact wins.recordOf?_eq presents
      · simp [FlowCall.counted?_of_token? presents] at counted
  · rw [Race.turn_of_done ended rfl] at spends
    exact absurd spends (Ledger.not_spends_self _ _)

end FlowRace

end Latchkey

import Latchkey.Proofs.Session.Lineage
import Latchkey.Proofs.Session.OneWinner

set_option autoImplicit false

/-! # Logging out everywhere

When all records of a user are invalidated, other calls of the user may be under way that have found
their record valid and signed its successor. None of them gets past the logout: whatever valid
record the user has later on goes back to a session that was begun after it
(`FlowRace.logout_is_final`). The induction is on the turns since the logout; only one call adds a
record in a turn, and it begins a session or exchanges a record that is valid at that moment. -/

namespace Latchkey

/-! ## What a write is for -/

namespace FlowCall

variable {flow : RefreshFlow} {call : FlowCall} {ledger : Ledger} {write : LedgerCall}
  {finish : Except Error write.Answer → Except Error call.Value} {fault : Option Error}
  {id old new userId : Uuid} {r : LedgerRecord} {token : String}

/-- A call that exchanges a token writes for the record and the user that the token names. -/
theorem Writes.names_of_exchanges (h : Writes flow ledger call write finish)
    (exchanges : call.Exchanges old new (some (finish (ledger.respond fault write).1)))
    (presents : call.token? = some token) :
    Compact.recordOf? token = some old
      ∧ ∃ r, ledger.find? old = some r ∧ Compact.userOf? token = some r.userId := by
  cases h with
  | issue | revoke | revokeAll => exact exchanges.elim
  | renew m token' id r custom algorithm issued names found owns signed =>
    obtain rfl : token' = token := Option.some.inj presents
    cases fault with
    | some error => exact exchanges.elim
    | none =>
      simp only [Ledger.respond, Ledger.answer] at exchanges
      cases rotated : ledger.rotate id (flow.newRecord m r.userId) with
      | error e =>
        rw [rotated] at exchanges
        exact exchanges.elim
      | ok later =>
        rw [rotated] at exchanges
        obtain rfl : id = old := Option.some.inj (names.symm.trans exchanges.1)
        exact ⟨names, r, found, owns⟩

/-- Only a logout writes to all records of a user. -/
theorem Writes.token?_eq_none {finish : Except Error Nat → Except Error call.Value}
    (h : Writes flow ledger call (.invalidateAll userId) finish) : call.token? = none := by
  cases h
  rfl

end FlowCall

/-! ## Results stay -/

theorem Race.result?_of_prefix {ι : Type} [DecidableEq ι] {α : ι → Type} {race : Race α}
    {schedule longer : List (Turn ι)} {i : ι} {result : α i} (le : schedule <+: longer)
    (ended : (race.after schedule).result? i = some result) :
    (race.after longer).result? i = some result := by
  obtain ⟨post, rfl⟩ := le
  rw [Race.result?_eq_some_iff] at ended ⊢
  rw [Race.after_append]
  exact Race.rest_after_of_done ended

namespace FlowRace

variable {ι : Type} [DecidableEq ι] {calls : ι → FlowCall} {flow : RefreshFlow} {w : World}
  {race : FlowRace calls} {schedule longer pre : List (Turn ι)} {t : Turn ι} {i : ι}
  {id old new root userId : Uuid} {r : LedgerRecord}

theorem Renewed.mono (h : race.Renewed schedule old new) (le : schedule <+: longer) :
    race.Renewed longer old new := by
  obtain ⟨i, exchanges⟩ := h
  refine ⟨i, ?_⟩
  cases ended : (race.after schedule).result? i with
  | none => exact absurd (ended ▸ exchanges) (FlowCall.not_exchanges_none _ _ _)
  | some result =>
    rw [Race.result?_of_prefix le ended]
    exact ended ▸ exchanges

/-- Since some turns, a session of a user has been begun: a call for the user has added the record
    and has answered its token. -/
def BegunSince (race : FlowRace calls) (pre schedule : List (Turn ι)) (userId root : Uuid) : Prop :=
  ∃ before t, pre <+: before ∧ before ++ [t] <+: schedule
    ∧ root ∉ (race.after before).ledger.ids ∧ root ∈ (race.after (before ++ [t])).ledger.ids
    ∧ (∃ m custom, calls t.caller = .issue m userId custom)
    ∧ (calls t.caller).Begins root ((race.after schedule).result? t.caller)

theorem BegunSince.mono (h : race.BegunSince pre schedule userId root) (le : schedule <+: longer) :
    race.BegunSince pre longer userId root := by
  obtain ⟨before, t, since, happened, absent, present, issues, begins⟩ := h
  refine ⟨before, t, since, happened.trans le, absent, present, issues, ?_⟩
  cases ended : (race.after schedule).result? t.caller with
  | none => exact absurd (ended ▸ begins) (FlowCall.not_begins_none _ _)
  | some result =>
    rw [Race.result?_of_prefix le ended]
    exact ended ▸ begins

/-- A record that is new after a turn begins a session, or was exchanged for a valid one. -/
theorem adds_turn (flow : RefreshFlow) (calls : ι → FlowCall) (w : World)
    (schedule : List (Turn ι)) (t : Turn ι)
    (absent : id ∉ ((start flow calls w).after schedule).ledger.ids)
    (found : ((start flow calls w).after (schedule ++ [t])).ledger.find? id = some r) :
    (∃ m custom, calls t.caller = .issue m r.userId custom)
        ∧ (calls t.caller).Begins id
          (((start flow calls w).after (schedule ++ [t])).result? t.caller)
      ∨ ∃ old s, (start flow calls w).Renewed (schedule ++ [t]) old id
        ∧ ((start flow calls w).after schedule).ledger.find? old = some s
        ∧ s.userId = r.userId ∧ s.isValid = true := by
  rw [Race.after_append, Race.after_cons, Race.after_nil] at found ⊢
  rcases standing flow calls w schedule t.caller with ⟨pending, -⟩ | ⟨_, _, _, _, wrote⟩
  · rcases turn_of_pending pending with ⟨same, -⟩ | ⟨write, finish, writes, ends, moved⟩
    · exact absurd found (Ledger.ne_of_ids_eq (by rw [Race.ledger, same]) absent)
    · rw [Race.ledger, moved] at found
      rcases writes.adds absent found with begins | ⟨old, s, exchanges, found, owner, valid⟩
      · rw [Race.result?_eq_some_iff.2 ends]
        exact .inl begins
      · refine .inr ⟨old, s, ⟨t.caller, ?_⟩, found, owner, valid⟩
        rw [Race.after_append, Race.after_cons, Race.after_nil, Race.result?_eq_some_iff.2 ends]
        exact exchanges
  · rw [Race.turn_of_done wrote.ended rfl] at found
    exact absurd found (Ledger.ne_of_ids_eq rfl absent)

/-! ## The logout -/

/-- After the turns `pre`, the turn `t` logs a user out everywhere: its caller asks the ledger to
    invalidate all records of the user, and the ledger does not fail. -/
def LogsOut (race : FlowRace calls) (pre : List (Turn ι)) (t : Turn ι) (userId : Uuid) : Prop :=
  t.fault = none
    ∧ ∃ next, (race.after pre).rest t.caller = .ask (.ledger (.invalidateAll userId)) next

/-- A call has found the record of its token in the ledger. -/
def HasFound (race : FlowRace calls) (schedule : List (Turn ι)) (i : ι) : Prop :=
  ∃ pre t id next, pre ++ [t] <+: schedule ∧ t.caller = i
    ∧ (race.after pre).rest i = .ask (.ledger (.find id)) next ∧ id ∈ (race.after pre).ledger.ids

/-- The call that logs out presents no token. -/
theorem LogsOut.token?_eq_none (h : (start flow calls w).LogsOut pre t userId) :
    (calls t.caller).token? = none := by
  obtain ⟨-, next, asks⟩ := h
  rcases standing flow calls w pre t.caller with ⟨pending, -⟩ | ⟨_, _, _, _, wrote⟩
  · rw [asks] at pending
    obtain ⟨_, writes, -⟩ := pending _ (Ledger.le_refl _)
    exact writes.token?_eq_none
  · exact absurd (asks.symm.trans wrote.ended) (by simp)

/-- No record that is there at the logout is valid ever after. -/
theorem LogsOut.isValid_eq_false (h : race.LogsOut pre t userId) (le : pre ++ [t] <+: schedule)
    (mem : id ∈ (race.after (pre ++ [t])).ledger.ids)
    (found : (race.after schedule).ledger.find? id = some r) (mine : r.userId = userId) :
    r.isValid = false := by
  obtain ⟨calm, next, asks⟩ := h
  have moved : (race.after (pre ++ [t])).ledger = (race.after pre).ledger.invalidateAll userId := by
    rw [Race.after_append, Race.after_cons, Race.after_nil, Race.ledger,
      Race.world_turn_of_ask asks, calm]
    rfl
  obtain ⟨s, was⟩ := Ledger.mem_ids_iff.1 mem
  obtain ⟨r', found', ages⟩ := (Race.ledger_le_of_prefix le).ages id s was
  obtain rfl : r = r' := Option.some.inj (found.symm.trans found')
  refine ages.isValid_eq_false ?_
  rw [moved, Ledger.invalidateAll, Ledger.find?_invalidateWhere] at was
  obtain ⟨s', -, rfl⟩ := Option.map_eq_some_iff.1 was
  have owner : s'.userId = userId := by
    have same := ages.userId_eq
    split at same <;> exact same.symm.trans mine
  simp [owner]

/-- A valid record of the user goes back to a session that was begun after the logout. -/
theorem LogsOut.exists_begunSince (h : (start flow calls w).LogsOut pre t userId)
    (post : List (Turn ι)) (r : LedgerRecord)
    (found : ((start flow calls w).after (pre ++ [t] ++ post)).ledger.find? id = some r)
    (mine : r.userId = userId) (valid : r.isValid = true) :
    ∃ root, (start flow calls w).BegunSince (pre ++ [t]) (pre ++ [t] ++ post) userId root
      ∧ Relation.ReflTransGen ((start flow calls w).Renewed (pre ++ [t] ++ post)) root id := by
  induction post using List.reverseRecOn generalizing id r with
  | nil =>
    rw [List.append_nil] at found
    have mem := Ledger.mem_ids_iff.2 ⟨r, found⟩
    have invalid := h.isValid_eq_false (List.prefix_refl _) mem found mine
    exact absurd valid (Bool.eq_false_iff.1 invalid)
  | append_singleton post t' ih =>
    rw [← List.append_assoc] at found ⊢
    have grows : pre ++ [t] ++ post <+: pre ++ [t] ++ post ++ [t'] := List.prefix_append _ _
    -- What goes back to the session before this turn still does after it.
    have still : ∀ id r, ((start flow calls w).after (pre ++ [t] ++ post)).ledger.find? id = some r →
        r.userId = userId → r.isValid = true →
        ∃ root, (start flow calls w).BegunSince (pre ++ [t]) (pre ++ [t] ++ post ++ [t']) userId root
          ∧ Relation.ReflTransGen ((start flow calls w).Renewed (pre ++ [t] ++ post ++ [t'])) root
            id := by
      intro id r found mine valid
      obtain ⟨root, begun, leads⟩ := ih r found mine valid
      exact ⟨root, begun.mono grows, Relation.ReflTransGen.mono (fun _ _ h => Renewed.mono h grows) _ _ leads⟩
    by_cases mem : id ∈ ((start flow calls w).after (pre ++ [t] ++ post)).ledger.ids
    · obtain ⟨s, was⟩ := Ledger.mem_ids_iff.1 mem
      obtain ⟨r', found', ages⟩ := (Race.ledger_le_of_prefix grows).ages id s was
      obtain rfl : r = r' := Option.some.inj (found.symm.trans found')
      rcases ages with rfl | rfl
      · exact still id r was mine valid
      · simp at valid
    · rcases adds_turn flow calls w _ t' mem found with
        ⟨issues, begins⟩ | ⟨old, s, renewed, was, owner, valid'⟩
      · refine ⟨id, ⟨_, t', List.prefix_append _ _, List.prefix_refl _, mem,
          Ledger.mem_ids_iff.2 ⟨r, found⟩, mine ▸ issues, begins⟩, .refl⟩
      · obtain ⟨root, begun, leads⟩ := still old s was (owner.trans mine) valid'
        exact ⟨root, begun, leads.tail renewed⟩

/-- What a call has found is the record that its token names. -/
theorem HasFound.mem_ids (h : (start flow calls w).HasFound schedule i) {token : String}
    (presents : (calls i).token? = some token) (names : Compact.recordOf? token = some id) :
    id ∈ ((start flow calls w).after schedule).ledger.ids := by
  obtain ⟨pre, t, id', next, happened, rfl, asks, mem⟩ := h
  rcases standing flow calls w pre t.caller with ⟨pending, -⟩ | ⟨_, _, _, _, wrote⟩
  · rw [asks] at pending
    obtain ⟨token', presents', names', -⟩ := pending
    obtain rfl : token = token' := Option.some.inj (presents.symm.trans presents')
    obtain rfl : id = id' := Option.some.inj (names.symm.trans names')
    exact Ledger.mem_ids_of_le
      (Race.ledger_le_of_prefix ((List.prefix_append _ _).trans happened)) mem
  · exact absurd (asks.symm.trans wrote.ended) (by simp)

/-- A call that had found its record before the logout can only exchange it before the logout too,
    and the record that it gets for it is not valid any more. -/
theorem LogsOut.spent_of_exchanges (h : (start flow calls w).LogsOut pre t userId)
    (le : pre ++ [t] <+: schedule) {token : String} (presents : (calls i).token? = some token)
    (owns : Compact.userOf? token = some userId) (found : (start flow calls w).HasFound pre i)
    (exchanged : (calls i).Exchanges old new
      (((start flow calls w).after schedule).result? i)) :
    ((start flow calls w).after pre).result? i ≠ none
      ∧ ((start flow calls w).after schedule).ledger.hasValid new = false := by
  obtain ⟨pre', t', write, finish, wrote, exchanges⟩ := wrote_of_result flow calls w schedule i
    (FlowCall.not_exchanges_none _ _ _) (fun result idle => idle.not_exchanges) exchanged
  obtain ⟨names, r, was, owner⟩ := wrote.writes.names_of_exchanges exchanges presents
  obtain ⟨r', s, fresh, was', rfl, same, rotated⟩ := wrote.writes.rotates_of_exchanges exchanges
  obtain rfl : r = r' := Option.some.inj (was.symm.trans was')
  have mine : r.userId = userId := Option.some.inj (owner.symm.trans owns)
  -- The record that was found is the one that is exchanged.
  have present : old ∈ ((start flow calls w).after (pre ++ [t])).ledger.ids :=
    Ledger.mem_ids_of_le (Race.ledger_le_of_prefix (List.prefix_append _ _))
      (found.mem_ids presents names)
  have spends := (wrote.writes.spends_iff t'.fault old).2 (.inl exchanges.wins)
  have afterwards : ¬ pre ++ [t] <+: pre' := by
    intro late
    have invalid := h.isValid_eq_false late present was mine
    rw [← Ledger.hasValid_of_find? was, spends.1] at invalid
    simp at invalid
  -- So the exchange comes before the logout, whose own turn exchanges nothing.
  have before : pre' ++ [t'] <+: pre := by
    have own : ¬ (pre' = pre ∧ t' = t) := by
      rintro ⟨rfl, rfl⟩
      rw [← wrote.caller, h.token?_eq_none] at presents
      simp at presents
    rcases List.prefix_or_prefix_of_prefix wrote.happened le with before | after
    · exact (Race.prefix_concat_iff.1 before).resolve_left own
    · refine ((Race.prefix_concat_iff.1 after).resolve_right afterwards).elim fun same turn => ?_
      exact absurd ⟨same.symm, turn.symm⟩ own
  refine ⟨fun running => ?_, ?_⟩
  · rcases standing flow calls w pre i with ⟨-, quiet⟩ | ⟨_, _, _, _, wrote'⟩
    · exact quiet.not_spends ⟨pre', t', before, wrote.caller, wrote.moved ▸ spends⟩
    · rw [Race.result?_eq_some_iff.2 wrote'.ended] at running
      simp at running
  · obtain ⟨r', s', spent, added, owner'⟩ := (adds_of_exchanges exchanged).2.owner
    obtain ⟨r'', spent', ages⟩ :=
      (Race.ledger_le_of_prefix ((List.prefix_append _ _).trans wrote.happened)).ages old r was
    obtain rfl : r' = r'' := Option.some.inj (spent.symm.trans spent')
    have mem : s.id ∈ ((start flow calls w).after (pre ++ [t])).ledger.ids := by
      refine Ledger.mem_ids_of_le
        (Race.ledger_le_of_prefix (before.trans (List.prefix_append _ _))) ?_
      rw [wrote.moved, rotated]
      simp
    rw [Ledger.hasValid_of_find? added]
    exact h.isValid_eq_false le mem added (owner'.trans (ages.userId_eq.trans mine))

/-- Nobody stays logged in past a logout, however the calls are interleaved, from any world and with
    any requests failing. Whatever record of the user is valid at any time after a logout goes back
    to a session that a call for the user has begun after it, through exchanges. And a call that had
    found the user's record before the logout can have exchanged it only before, and has got nothing
    valid for it. -/
theorem logout_is_final (flow : RefreshFlow) (calls : ι → FlowCall) (w : World)
    (pre schedule : List (Turn ι)) (t : Turn ι) (userId : Uuid)
    (out : (start flow calls w).LogsOut pre t userId) (le : pre ++ [t] <+: schedule) :
    let race := start flow calls w
    (∀ id r, (race.after schedule).ledger.find? id = some r → r.userId = userId →
        r.isValid = true → ∃ root, race.BegunSince (pre ++ [t]) schedule userId root
          ∧ Relation.ReflTransGen (race.Renewed schedule) root id)
      ∧ ∀ i token, (calls i).token? = some token → Compact.userOf? token = some userId →
        race.HasFound pre i → ∀ old new,
          (calls i).Exchanges old new ((race.after schedule).result? i) →
            (race.after pre).result? i ≠ none
              ∧ (race.after schedule).ledger.hasValid new = false := by
  refine ⟨fun id r found mine valid => ?_, fun i token presents owns found old new exchanges =>
    out.spent_of_exchanges le presents owns found exchanges⟩
  obtain ⟨post, rfl⟩ := le
  exact out.exists_begunSince post r found mine valid

/-- A user with one session who logs out everywhere, and then logs in again. -/
theorem session_after_logout :
    let calls := fun again : Bool =>
      if again then .issue ⟨⟨0, 0⟩, .ofNat 3, 0⟩ (.ofNat 2) [] else .revokeAll (.ofNat 2)
    let race := start (.sharing []) calls (.withKey .zero .oneToken)
    let schedule := [⟨false, none, .none⟩, ⟨true, none, .none⟩, ⟨true, none, .none⟩]
    race.ledger.hasValid (.ofNat 1) = true
      ∧ (race.after schedule).ledger.hasValid (.ofNat 1) = false
      ∧ (race.after schedule).ledger.hasValid (.ofNat 3) = true
      ∧ ∃ root, race.BegunSince [⟨false, none, .none⟩] schedule (.ofNat 2) root
        ∧ Relation.ReflTransGen (race.Renewed schedule) root (.ofNat 3) := by
  intro calls race schedule
  have out : race.LogsOut [] ⟨false, none, .none⟩ (.ofNat 2) := ⟨rfl, _, rfl⟩
  refine ⟨rfl, rfl, rfl, ?_⟩
  exact (logout_is_final _ calls _ [] schedule _ (.ofNat 2) out ⟨_, rfl⟩).1 (.ofNat 3) _ rfl rfl rfl

end FlowRace

end Latchkey

import Latchkey.Proofs.Ledger.Calls
import Latchkey.Proofs.Session.Run

set_option autoImplicit false

/-! # The ledger only moves forward

The order of ledgers asks that inserts fail in both or in neither. Here inserts may be made to fail
at any time, and the ledger is also asked directly, with any records and identifiers, while calls of
the flow take their turns. Nothing of this takes anything back (`Race.reaches_through`), and a token
whose record is no longer valid can never be exchanged or revoked again
(`FlowRace.moves_only_forward`). -/

namespace Latchkey

/-! ## Inserts that are made to fail -/

namespace Ledger

variable {l l' l'' : Ledger} {id : Uuid} {r : LedgerRecord}

theorem failing_mono (le : l ≤ l') (on : Bool) : l.failing on ≤ l'.failing on :=
  ⟨le.ids_prefix, le.ages, rfl⟩

/-- One ledger can become another, where inserts may be made to fail in between. -/
def Reaches (l l' : Ledger) : Prop :=
  l.failing l'.failInserts ≤ l'

theorem reaches_of_le (le : l ≤ l') : l.Reaches l' := by
  rw [Reaches, le.inserts]
  exact le

theorem reaches_failing (l : Ledger) (on : Bool) : l.Reaches (l.failing on) :=
  le_refl _

theorem Reaches.trans (h : l.Reaches l') (h' : l'.Reaches l'') : l.Reaches l'' :=
  le_trans (failing_mono h _) h'

/-- A record that is there stays, under its identifier and with its user and its times, and it does
    not become valid again. -/
theorem Reaches.find? (h : l.Reaches l') (found : l.find? id = some r) :
    ∃ r', l'.find? id = some r' ∧ r.Ages r' :=
  h.ages id r found

theorem Reaches.hasValid_eq_false (h : l.Reaches l') (found : l.find? id = some r)
    (invalid : r.isValid = false) : l'.hasValid id = false := by
  obtain ⟨r', found', ages⟩ := h.find? found
  rw [hasValid_of_find? found', ages.isValid_eq_false invalid]

end Ledger

namespace FlowCall

variable {flow : RefreshFlow} {call : FlowCall} {ledger later : Ledger} {on : Bool}

/-- What a call writes depends on the records only. -/
theorem Writes.failing {write : LedgerCall}
    {finish : Except Error write.Answer → Except Error call.Value}
    (h : Writes flow (ledger.failing on) call write finish) :
    Writes flow ledger call write finish := by
  cases h with
  | issue m userId custom algorithm issued signed =>
    exact .issue m userId custom algorithm issued signed
  | renew m token id old custom algorithm issued names found owns signed =>
    exact .renew m token id old custom algorithm issued names found owns signed
  | revoke now token tokenId old names found owns =>
    exact .revoke now token tokenId old names found owns
  | revokeAll userId => exact .revokeAll userId

theorem Closes.failing {write : LedgerCall}
    {next : Except Error write.Answer → Program Request Request.Answer (Except Error call.Value)}
    (h : call.Closes flow write next ledger) (on : Bool) :
    call.Closes flow write next (ledger.failing on) := by
  intro later le
  obtain ⟨finish, writes, ends⟩ := h _ (Ledger.failing_mono le ledger.failInserts)
  exact ⟨finish, writes.failing, ends⟩

/-- A call that has not written yet does not notice that inserts are made to fail. -/
theorem Pending.failing {p : Program Request Request.Answer (Except Error call.Value)}
    (h : call.Pending flow p ledger) (on : Bool) : call.Pending flow p (ledger.failing on) := by
  induction p generalizing ledger on with
  | done result => exact h
  | ask request next ih =>
    match request, next, ih, h with
    | .signing (.read _), _, ih, h => exact fun answer => ih answer (h answer) on
    | .signing (.recentUsable _), _, ih, h => exact fun answer => ih answer (h answer) on
    | .ledger (.find _), _, ih, h =>
      obtain ⟨token, presented, names, failed, found, lost⟩ := h
      -- A later ledger comes after the old one too, if inserts are set back in it.
      refine ⟨token, presented, names, fun later e le => ?_, fun later le => ?_, lost⟩
      · have back := Ledger.failing_mono le ledger.failInserts
        exact ih _ (failed _ e back) later.failInserts
      · have back := Ledger.failing_mono le ledger.failInserts
        exact ih _ (found _ back) later.failInserts
    | .ledger (.create _), _, _, h => exact Closes.failing h on
    | .ledger (.rotate _ _), _, _, h => exact Closes.failing h on
    | .ledger (.invalidate _), _, _, h => exact Closes.failing h on
    | .ledger (.invalidateAll _), _, _, h => exact Closes.failing h on

theorem Pending.reach {p : Program Request Request.Answer (Except Error call.Value)}
    (h : call.Pending flow p ledger) (reaches : ledger.Reaches later) :
    call.Pending flow p later :=
  (h.failing later.failInserts).mono reaches

/-- A write whose answer makes the call win a record finds it valid. -/
theorem Writes.hasValid_of_wins {write : LedgerCall} {fault : Option Error} {id : Uuid}
    {finish : Except Error write.Answer → Except Error call.Value}
    (h : Writes flow ledger call write finish)
    (wins : call.Wins id (some (finish (ledger.respond fault write).1))) :
    ledger.hasValid id = true :=
  ((h.spends_iff fault id).2 (.inl wins)).1

end FlowCall

/-! ## Whatever happens -/

/-- What can happen to a ledger: an event of a run, a call to the ledger itself, or that inserts are
    made to fail from then on or are not any more. -/
inductive Incident (ι : Type)
  | event (e : Event ι)
  | serve (call : StoreCall)
  | failInserts (on : Bool)

namespace Race

variable {ι : Type} [DecidableEq ι] {α : ι → Type}

/-- The race after one incident. -/
def meet (race : Race α) : Incident ι → Race α
  | .event e => race.happen e
  | .serve call => ⟨(call.operation.run.run (World.answer .none) race.world).2, race.rest⟩
  | .failInserts on => ⟨{ race.world with ledger := race.ledger.failing on }, race.rest⟩

/-- The race after a list of incidents. -/
def through (race : Race α) (incidents : List (Incident ι)) : Race α :=
  incidents.foldl meet race

variable {race : Race α} {pre post : List (Incident ι)}

@[simp] theorem through_append (race : Race α) (pre post : List (Incident ι)) :
    race.through (pre ++ post) = (race.through pre).through post :=
  List.foldl_append

theorem through_concat (race : Race α) (pre : List (Incident ι)) (x : Incident ι) :
    race.through (pre ++ [x]) = (race.through pre).meet x := by
  rw [through_append]
  rfl

theorem reaches_meet (race : Race α) (x : Incident ι) : race.ledger.Reaches (race.meet x).ledger := by
  cases x with
  | event e => exact Ledger.reaches_of_le (race.ledger_le_happen e)
  | serve call =>
    rw [meet, ledger, World.run_operation]
    exact Ledger.reaches_of_le (race.ledger.le_serve call)
  | failInserts on => exact race.ledger.reaches_failing on

/-- Whatever happens, the ledger only moves forward. -/
theorem reaches_through (race : Race α) (incidents : List (Incident ι)) :
    race.ledger.Reaches (race.through incidents).ledger := by
  induction incidents using List.reverseRecOn with
  | nil => exact Ledger.reaches_of_le race.ledger.le_refl
  | append_singleton incidents x ih =>
    rw [through_concat]
    exact ih.trans (reaches_meet _ x)

end Race

namespace FlowRace

variable {ι : Type} [DecidableEq ι] {calls : ι → FlowCall} {flow : RefreshFlow} {w : World}
  {race : FlowRace calls} {i : ι} {id : Uuid} {r : LedgerRecord} {x : Incident ι}

/-- What one incident makes of a call that has its write still before it: it keeps it before it, or
    ends, and wins only records that were valid. -/
theorem meet_of_pending (h : (calls i).Pending flow (race.rest i) race.ledger) :
    (calls i).Pending flow ((race.meet x).rest i) (race.meet x).ledger
      ∨ ∃ result, (race.meet x).rest i = .done result
        ∧ ∀ id, (calls i).Wins id (some result) → race.ledger.hasValid id = true := by
  -- Only a turn of its own moves the call.
  have still : (race.meet x).rest i = race.rest i →
      (calls i).Pending flow ((race.meet x).rest i) (race.meet x).ledger := fun same => by
    rw [same]
    exact h.reach (race.reaches_meet x)
  cases x with
  | serve call => exact .inl (still rfl)
  | failInserts on => exact .inl (still rfl)
  | event e =>
    cases e with
    | change clock signing encryption => exact .inl (still rfl)
    | turn t =>
      by_cases mine : t.caller = i
      · subst mine
        rcases turn_of_pending h with ⟨same, rest⟩ | ⟨write, finish, writes, ends, -⟩
        · exact .inl (by simpa only [Race.meet, Race.happen, Race.ledger, same] using rest)
        · exact .inr ⟨_, ends, fun id wins => writes.hasValid_of_wins wins⟩
      · exact .inl (still (Race.rest_turn_of_ne (Ne.symm mine)))

theorem rest_meet_of_done {result : Except Error (calls i).Value} (h : race.rest i = .done result) :
    (race.meet x).rest i = .done result := by
  cases x with
  | event e => exact Race.rest_happen_of_done h
  | serve call => exact h
  | failInserts on => exact h

theorem pending_or_done_through (flow : RefreshFlow) (calls : ι → FlowCall) (w : World)
    (incidents : List (Incident ι)) (i : ι) :
    let race := (start flow calls w).through incidents
    (calls i).Pending flow (race.rest i) race.ledger ∨ ∃ result, race.rest i = .done result := by
  induction incidents using List.reverseRecOn with
  | nil => exact .inl ((calls i).pending_operation flow _)
  | append_singleton incidents x ih =>
    rw [Race.through_concat]
    rcases ih with pending | ⟨result, ended⟩
    · rcases meet_of_pending (x := x) pending with pending | ⟨result, ended, -⟩
      · exact .inl pending
      · exact .inr ⟨result, ended⟩
    · exact .inr ⟨result, rest_meet_of_done ended⟩

/-- A call that has its write still before it when a record is no longer valid will never win the
    record. -/
theorem not_wins_of_pending (pending : (calls i).Pending flow (race.rest i) race.ledger)
    (found : race.ledger.find? id = some r) (invalid : r.isValid = false)
    (incidents : List (Incident ι)) :
    ¬ (calls i).Wins id ((race.through incidents).result? i) := by
  have standing : (calls i).Pending flow ((race.through incidents).rest i)
        (race.through incidents).ledger
      ∨ ∃ result, (race.through incidents).rest i = .done result
        ∧ ¬ (calls i).Wins id (some result) := by
    induction incidents using List.reverseRecOn with
    | nil => exact .inl pending
    | append_singleton incidents x ih =>
      rw [Race.through_concat]
      rcases ih with pending | ⟨result, ended, loses⟩
      · have spent := (race.reaches_through incidents).hasValid_eq_false found invalid
        refine (meet_of_pending pending).imp_right fun ⟨result, ended, won⟩ => ?_
        exact ⟨result, ended, fun wins => by simp [won id wins] at spent⟩
      · exact .inr ⟨result, rest_meet_of_done ended, loses⟩
  rcases standing with pending | ⟨result, ended, loses⟩
  · cases ended : (race.through incidents).result? i with
    | none => exact FlowCall.not_wins_none _ _
    | some result =>
      rw [Race.result?_eq_some_iff.1 ended] at pending
      exact FlowCall.Idle.not_wins pending id
  · rwa [Race.result?_eq_some_iff.2 ended]

/-- The ledger only moves forward, whatever it is asked with whatever records and identifiers, with
    inserts made to fail at any time, and whatever calls of the flow do in the meantime. Records are
    never removed or exchanged, and nothing about them changes but that they may become invalid. Once
    a record is invalid, no call that has not ended by then renews or revokes a token that names
    it. -/
theorem moves_only_forward (flow : RefreshFlow) (calls : ι → FlowCall) (w : World)
    (pre post : List (Incident ι)) :
    let earlier := (start flow calls w).through pre
    let later := (start flow calls w).through (pre ++ post)
    earlier.ledger.ids <+: later.ledger.ids
      ∧ ∀ id r, earlier.ledger.find? id = some r →
        (∃ r', later.ledger.find? id = some r' ∧ r'.id = r.id ∧ r'.userId = r.userId
            ∧ r'.expiresAt = r.expiresAt ∧ r'.createdAt = r.createdAt
            ∧ (r.isValid = false → r'.isValid = false))
          ∧ (r.isValid = false → ∀ i, earlier.result? i = none →
            ¬ (calls i).Wins id (later.result? i)) := by
  intro earlier later
  have onward : later = earlier.through post := Race.through_append _ pre post
  have reaches : earlier.ledger.Reaches later.ledger := onward ▸ earlier.reaches_through post
  refine ⟨reaches.ids_prefix, fun id r found => ⟨?_, fun invalid i running => ?_⟩⟩
  · obtain ⟨r', found', ages⟩ := reaches.find? found
    refine ⟨r', found', ?_, ages.userId_eq, ?_, ?_, ages.isValid_eq_false⟩
    all_goals rcases ages with rfl | rfl <;> rfl
  · rw [onward]
    rcases pending_or_done_through flow calls w pre i with pending | ⟨result, ended⟩
    · exact not_wins_of_pending pending found invalid post
    · exact absurd (Race.result?_eq_some_iff.2 ended) (by rw [running]; simp)

/-- A token is exchanged, and then somebody tries to get its record back, before the token is
    presented once more. -/
theorem exchanged_token_stays_spent :
    ∃ issued, (RefreshFlow.sharing []).codec.issue (.hs256 Uuid.zero.toText []) (.ofNat 1)
        (.ofNat 2) [] ⟨0, 0⟩ = .ok issued ∧
      let record := (RefreshFlow.sharing []).newRecord ⟨⟨0, 0⟩, .ofNat 1, 0⟩ (.ofNat 2)
      let pre : List (Incident Unit) :=
        [.serve (.ledger (.rotate (.ofNat 1) { record with id := .ofNat 5 })), .failInserts true]
      let post : List (Incident Unit) :=
        [.serve (.ledger (.create record)), .failInserts false, .serve (.countValid (.ofNat 2)),
          .serve (.ledger (.rotate (.ofNat 5) record))]
          ++ List.replicate 4 (.event (.turn ⟨(), none, .none⟩))
      let race := start (.sharing []) (fun _ : Unit => .renew ⟨⟨1, 0⟩, .ofNat 3, 0⟩ issued.token)
        (.withKey .zero .oneToken)
      (race.through pre).ledger.hasValid (.ofNat 5) = true
        ∧ (∃ r, (race.through (pre ++ post)).ledger.find? (.ofNat 1) = some r ∧ r.isValid = false)
        ∧ ∀ successor, (race.through (pre ++ post)).result? () ≠ some (.ok successor) := by
  obtain ⟨issued, issues, -, good⟩ := RefreshFlow.exists_first ⟨Claims.shaped_nil, trivial⟩
  refine ⟨issued, issues, ?_⟩
  intro record pre post race
  obtain ⟨named, shown, -⟩ := good ⟨1, 0⟩ (by decide) .oneToken
  have names : Compact.recordOf? issued.token = some (.ofNat 1) :=
    (RefreshFlow.names_of_presentedUnder shown).1
  have running : (race.through pre).result? () = none := by
    cases ended : (race.through pre).result? () with
    | none => rfl
    | some result =>
      have asks := Race.result?_eq_some_iff.1 ended
      simp only [race, pre, start, Race.through, List.foldl, Race.meet, FlowCall.operation,
        RefreshFlow.run_renew, RefreshFlow.verifyPresented_bind, named] at asks
      simp at asks
  obtain ⟨-, keeps⟩ := moves_only_forward (.sharing [])
    (fun _ : Unit => .renew ⟨⟨1, 0⟩, .ofNat 3, 0⟩ issued.token) (.withKey .zero .oneToken) pre post
  obtain ⟨⟨r, found, -, -, -, -, stays⟩, loses⟩ := keeps (.ofNat 1) record.invalidated rfl
  refine ⟨rfl, ⟨r, found, stays rfl⟩, fun successor succeeded => loses rfl () running ?_⟩
  rw [succeeded]
  exact names

end FlowRace

end Latchkey

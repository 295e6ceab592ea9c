import Latchkey.Proofs.Session.Lineage
import Latchkey.Proofs.Session.Run

set_option autoImplicit false

/-! # What a run signs

A call that hands out a token signs it before it asks the ledger to take the record. From then on
the call holds the token, and answers it if the ledger does take the record. So a run may sign
tokens that have no record, but every record belongs to a token that was handed out
(`FlowRace.signed_of_find?`). -/

namespace Latchkey

namespace FlowCall

/-- The token that a result hands out. -/
def handed? : (call : FlowCall) → Option (Except Error call.Value) → Option IssuedToken
  | .issue _ _ _, some (.ok issued) => some issued
  | .renew _ _, some (.ok issued) => some issued
  | _, _ => none

/-- The token that a call has signed and asks the ledger to record: what it hands out once the
    ledger has done so. -/
def held? (call : FlowCall) :
    Program Request Request.Answer (Except Error call.Value) → Option IssuedToken
  | .ask (.ledger (.create r)) next =>
    match next (.ok r) with
    | .done result => call.handed? (some result)
    | .ask _ _ => none
  | .ask (.ledger (.rotate _ successor)) next =>
    match next (.ok successor) with
    | .done result => call.handed? (some result)
    | .ask _ _ => none
  | _ => none

/-- The identifier that is drawn for a call's record. -/
def freshId? : FlowCall → Option Uuid
  | .issue m _ _ | .renew m _ => some m.freshId
  | .revoke _ _ | .revokeAll _ => none

variable {flow : RefreshFlow} {call : FlowCall} {ledger : Ledger} {write : LedgerCall}
  {finish : Except Error write.Answer → Except Error call.Value} {x : IssuedToken} {id : Uuid}

theorem Idle.handed?_eq_none {result : Except Error call.Value} (h : call.Idle result) :
    call.handed? (some result) = none := by
  match call, result, h with
  | .issue _ _ _, .error _, _ => rfl
  | .renew _ _, .error _, _ => rfl
  | .revoke _ _, _, _ => rfl
  | .revokeAll _, _, _ => rfl

theorem handed?_none (call : FlowCall) : call.handed? none = none := by
  cases call <;> rfl

theorem handed?_error (call : FlowCall) (e : Error) : call.handed? (some (.error e)) = none := by
  cases call <;> rfl

theorem Begins.exists_handed? {result : Option (Except Error call.Value)}
    (h : call.Begins id result) : ∃ x, call.handed? result = some x ∧ x.tokenId = id := by
  match call, result, h with
  | .issue _ _ _, some (.ok x), h => exact ⟨x, rfl, h⟩

theorem Exchanges.exists_handed? {old : Uuid} {result : Option (Except Error call.Value)}
    (h : call.Exchanges old id result) : ∃ x, call.handed? result = some x ∧ x.tokenId = id := by
  match call, result, h with
  | .renew _ _, some (.ok x), h => exact ⟨x, rfl, h.2⟩

/-- A token that is handed out was issued under the identifier that was drawn. -/
theorem Writes.issue_of_handed? (h : Writes flow ledger call write finish)
    {answer : Except Error write.Answer} (handed : call.handed? (some (finish answer)) = some x) :
    call.freshId? = some x.tokenId ∧ ∃ algorithm custom now,
      flow.codec.issue algorithm x.tokenId x.userId custom now = .ok x := by
  cases h with
  | issue m userId custom algorithm issued signed =>
    cases answer with
    | error e => simp [handed?, Except.map] at handed
    | ok r =>
      obtain rfl : issued = x := Option.some.inj handed
      obtain ⟨same, owner⟩ := TokenCodec.ids_of_issue signed
      exact ⟨congrArg some same.symm, algorithm, custom, m.now, by rw [same, owner, signed]⟩
  | renew m token id old custom algorithm issued names found owns signed =>
    cases answer with
    | error e => simp [handed?, Except.map] at handed
    | ok r =>
      obtain rfl : issued = x := Option.some.inj handed
      obtain ⟨same, owner⟩ := TokenCodec.ids_of_issue signed
      exact ⟨congrArg some same.symm, algorithm, custom, m.now, by rw [same, owner, signed]⟩
  | revoke => simp [handed?] at handed
  | revokeAll => simp [handed?] at handed

/-- It is for the user of the call, or of the record that is exchanged for it. -/
theorem Writes.userId_of_handed? (h : Writes flow ledger call write finish)
    {answer : Except Error write.Answer} (handed : call.handed? (some (finish answer)) = some x) :
    (∀ m userId custom, call = .issue m userId custom → x.userId = userId)
      ∧ ∀ old new r, call.Exchanges old new (some (finish answer)) → ledger.find? old = some r →
        x.userId = r.userId := by
  cases h with
  | issue m userId custom algorithm issued signed =>
    cases answer with
    | error e => simp [handed?, Except.map] at handed
    | ok r =>
      obtain rfl : issued = x := Option.some.inj handed
      refine ⟨?_, fun _ _ _ exchanges => exchanges.elim⟩
      rintro _ _ _ ⟨⟩
      exact (TokenCodec.ids_of_issue signed).2
  | renew m token id old custom algorithm issued names found owns signed =>
    cases answer with
    | error e => simp [handed?, Except.map] at handed
    | ok r =>
      obtain rfl : issued = x := Option.some.inj handed
      refine ⟨fun _ _ _ issues => by simp at issues, fun old' new r exchanges found' => ?_⟩
      obtain rfl : id = old' := Option.some.inj (names.symm.trans exchanges.1)
      obtain rfl : old = r := Option.some.inj (found.symm.trans found')
      exact (TokenCodec.ids_of_issue signed).2
  | revoke => simp [handed?] at handed
  | revokeAll => simp [handed?] at handed

/-- A write that adds a record hands its token out. -/
theorem Writes.handed?_of_adds (h : Writes flow ledger call write finish) {fault : Option Error}
    {r : LedgerRecord} (absent : id ∉ ledger.ids)
    (found : (ledger.respond fault write).2.find? id = some r) :
    ∃ x, call.handed? (some (finish (ledger.respond fault write).1)) = some x ∧ x.tokenId = id
      ∧ x.userId = r.userId := by
  rcases h.adds absent found with ⟨⟨m, custom, issues⟩, begins⟩ | ⟨old, s, exchanges, was, owner, -⟩
  · obtain ⟨x, handed, same⟩ := begins.exists_handed?
    exact ⟨x, handed, same, (h.userId_of_handed? handed).1 _ _ _ issues⟩
  · obtain ⟨x, handed, same⟩ := exchanges.exists_handed?
    exact ⟨x, handed, same, ((h.userId_of_handed? handed).2 _ _ _ exchanges was).trans owner⟩

/-- What a write hands out does not depend on what the ledger answers, as long as that is no
    failure. -/
theorem Writes.handed?_ok (h : Writes flow ledger call write finish)
    {answer : Except Error write.Answer} (handed : call.handed? (some (finish answer)) = some x)
    (success : write.Answer) : call.handed? (some (finish (.ok success))) = some x := by
  cases h with
  | issue | renew =>
    cases answer with
    | error e => simp [handed?, Except.map] at handed
    | ok r => exact handed
  | revoke => simp [handed?] at handed
  | revokeAll => simp [handed?] at handed

variable {p : Program Request Request.Answer (Except Error call.Value)}

/-- A call that holds a token has its write left, which hands that token out. -/
theorem Pending.writes_of_held? (h : call.Pending flow p ledger) (held : call.held? p = some x) :
    ∃ write next finish, p = .ask (.ledger write) next ∧ Writes flow ledger call write finish
      ∧ (∀ answer, next answer = .done (finish answer))
      ∧ ∃ success, call.handed? (some (finish (.ok success))) = some x := by
  match p, h with
  | .ask (.ledger (.create r)) next, h =>
    obtain ⟨finish, writes, ends⟩ := h ledger ledger.le_refl
    exact ⟨_, next, finish, rfl, writes, ends, r, by simpa only [held?, ends] using held⟩
  | .ask (.ledger (.rotate old s)) next, h =>
    obtain ⟨finish, writes, ends⟩ := h ledger ledger.le_refl
    exact ⟨_, next, finish, rfl, writes, ends, s, by simpa only [held?, ends] using held⟩
  | .done _, _ => simp [held?] at held
  | .ask (.signing _) _, _ => simp [held?] at held
  | .ask (.ledger (.find _)) _, _ => simp [held?] at held
  | .ask (.ledger (.invalidate _)) _, _ => simp [held?] at held
  | .ask (.ledger (.invalidateAll _)) _, _ => simp [held?] at held

/-- A call that hands a token out has held it just before. -/
theorem Pending.held?_of_handed? {request : Request} {w : World}
    {next : request.Answer → Program Request Request.Answer (Except Error call.Value)}
    (h : call.Pending flow (.ask request next) w.ledger) {fault : Option Error} {draw : Draw}
    {result : Except Error call.Value}
    (ends : next (w.respond fault draw request).1 = .done result)
    (handed : call.handed? (some result) = some x) : call.held? (.ask request next) = some x := by
  have idle : ¬ call.Idle result := fun idle => by simp [idle.handed?_eq_none] at handed
  match request, next, h with
  | .signing (.read _), _, h => exact absurd (ends ▸ h _ : call.Pending flow (.done result) _) idle
  | .signing (.recentUsable _), _, h =>
    exact absurd (ends ▸ h _ : call.Pending flow (.done result) _) idle
  | .ledger (.find id), next, h =>
    obtain ⟨-, -, -, failed, found, -⟩ := h
    refine absurd (?_ : call.Pending flow (.done result) w.ledger) idle
    rw [← ends]
    cases fault with
    | none => exact found _ w.ledger.le_refl
    | some error => exact failed _ _ w.ledger.le_refl
  | .ledger (.create r), next, h =>
    obtain ⟨finish, writes, closes⟩ := h w.ledger w.ledger.le_refl
    obtain rfl : finish _ = result := Program.done.inj ((closes _).symm.trans ends)
    simpa only [held?, closes] using writes.handed?_ok handed r
  | .ledger (.rotate old s), next, h =>
    obtain ⟨finish, writes, closes⟩ := h w.ledger w.ledger.le_refl
    obtain rfl : finish _ = result := Program.done.inj ((closes _).symm.trans ends)
    simpa only [held?, closes] using writes.handed?_ok handed s
  | .ledger (.invalidate id), next, h =>
    obtain ⟨finish, writes, closes⟩ := h w.ledger w.ledger.le_refl
    cases writes
    simp [handed?] at handed
  | .ledger (.invalidateAll u), next, h =>
    obtain ⟨finish, writes, closes⟩ := h w.ledger w.ledger.le_refl
    cases writes
    simp [handed?] at handed

end FlowCall

namespace FlowRace

variable {ι : Type} [DecidableEq ι] {calls : ι → FlowCall}

/-- At some point of a run, a call holds a token that it has signed. -/
def Signed (race : FlowRace calls) (events : List (Event ι)) (i : ι) (x : IssuedToken) : Prop :=
  ∃ pre, pre <+: events ∧ (calls i).held? ((race.during pre).rest i) = some x

/-- The drawn identifiers are all different. -/
def DrawsApart (calls : ι → FlowCall) : Prop :=
  ∀ i j id, (calls i).freshId? = some id → (calls j).freshId? = some id → i = j

variable {flow : RefreshFlow} {w : World} {race : FlowRace calls} {events pre : List (Event ι)}
  {i j : ι} {x y : IssuedToken} {id : Uuid} {r : LedgerRecord}

theorem Signed.mono (h : race.Signed pre i x) (le : pre <+: events) : race.Signed events i x := by
  obtain ⟨before, le', held⟩ := h
  exact ⟨before, le'.trans le, held⟩

/-- What was signed has been issued under the identifier that the call drew. -/
theorem Signed.issued (h : (start flow calls w).Signed events i x) :
    (calls i).freshId? = some x.tokenId ∧ ∃ algorithm custom now,
      flow.codec.issue algorithm x.tokenId x.userId custom now = .ok x := by
  obtain ⟨pre, -, held⟩ := h
  rcases pending_or_done flow calls w pre i with pending | ⟨result, ended⟩
  · obtain ⟨_, _, _, -, writes, -, _, handed⟩ := pending.writes_of_held? held
    exact writes.issue_of_handed? handed
  · rw [ended] at held
    simp [FlowCall.held?] at held

/-- A call that holds a token keeps it until its next turn, which is its last. -/
theorem rest_of_held? (le : pre <+: events)
    (held : (calls i).held? (((start flow calls w).during pre).rest i) = some x) :
    ((start flow calls w).during events).rest i = ((start flow calls w).during pre).rest i
      ∨ ∃ result, ((start flow calls w).during events).rest i = .done result := by
  obtain ⟨post, rfl⟩ := le
  induction post using List.reverseRecOn with
  | nil => exact .inl (by rw [List.append_nil])
  | append_singleton post e ih =>
    rw [← List.append_assoc, Race.during_concat]
    rcases ih with same | ⟨result, ended⟩
    · by_cases mine : ∃ t, e = .turn t ∧ t.caller = i
      · obtain ⟨t, rfl, rfl⟩ := mine
        refine .inr ?_
        rcases pending_or_done flow calls w (pre ++ post) t.caller with pending | ⟨result, ended⟩
        · rw [← same] at held
          obtain ⟨_, _, _, asks, -, ends, -⟩ := pending.writes_of_held? held
          exact ⟨_, (Race.rest_turn_of_ask asks).trans (ends _)⟩
        · exact ⟨result, Race.rest_happen_of_done ended⟩
      · refine .inl ((Race.rest_happen_of_ne fun t turn own => mine ⟨t, turn, own.symm⟩).trans same)
    · exact .inr ⟨result, Race.rest_happen_of_done ended⟩

/-- No call signs two tokens. -/
theorem signed_unique (h : (start flow calls w).Signed events i x)
    (h' : (start flow calls w).Signed events i y) : x = y := by
  obtain ⟨pre, le, held⟩ := h
  obtain ⟨pre', le', held'⟩ := h'
  have later : ∀ {pre pre' : List (Event ι)} {x y : IssuedToken}, pre <+: pre' →
      (calls i).held? (((start flow calls w).during pre).rest i) = some x →
      (calls i).held? (((start flow calls w).during pre').rest i) = some y → x = y := by
    intro pre pre' x y before held held'
    rcases rest_of_held? before held with same | ⟨result, ended⟩
    · exact Option.some.inj (held.symm.trans (same ▸ held'))
    · rw [ended] at held'
      simp [FlowCall.held?] at held'
  rcases List.prefix_or_prefix_of_prefix le le' with before | before
  · exact later before held held'
  · exact (later before held' held).symm

/-- A token that was handed out stays so. -/
theorem handed?_of_prefix (le : pre <+: events)
    (handed : (calls i).handed? ((race.during pre).result? i) = some x) :
    (calls i).handed? ((race.during events).result? i) = some x := by
  cases ended : (race.during pre).result? i with
  | none =>
    rw [ended, FlowCall.handed?_none] at handed
    simp at handed
  | some result => rwa [Race.result?_during_of_prefix le ended, ← ended]

/-- Starting without records, a run has a record only for a token that it has signed and handed
    out. -/
theorem signed_of_find? (empty : w.ledger.records = [])
    (found : ((start flow calls w).during events).ledger.find? id = some r) :
    ∃ i x, (start flow calls w).Signed events i x
      ∧ (calls i).handed? (((start flow calls w).during events).result? i) = some x
      ∧ x.tokenId = id ∧ x.userId = r.userId := by
  induction events using List.reverseRecOn generalizing r with
  | nil =>
    have none : w.ledger.find? id = none := by rw [Ledger.find?, empty, List.find?_nil]
    exact absurd (none.symm.trans found) (by simp)
  | append_singleton events e ih =>
    have le : events <+: events ++ [e] := List.prefix_append _ _
    -- A record that was there before has its signer already; a new one is due to the event.
    by_cases mem : id ∈ ((start flow calls w).during events).ledger.ids
    · obtain ⟨r', found'⟩ := Ledger.mem_ids_iff.1 mem
      obtain ⟨i, x, signed, handed, same, owner⟩ := ih found'
      obtain ⟨r'', found'', ages⟩ := (Race.ledger_le_during le).ages id r' found'
      obtain rfl : r = r'' := Option.some.inj (found.symm.trans found'')
      exact ⟨i, x, signed.mono le, handed?_of_prefix le handed, same,
        owner.trans ages.userId_eq.symm⟩
    rw [Race.during_concat] at found ⊢
    cases e with
    | change clock signing encryption => exact absurd (Ledger.mem_ids_iff.2 ⟨r, found⟩) mem
    | turn t =>
      rw [Race.happen] at found ⊢
      cases asks : ((start flow calls w).during events).rest t.caller with
      | done result =>
        rw [Race.turn_of_done asks rfl] at found
        exact absurd (Ledger.mem_ids_iff.2 ⟨r, found⟩) mem
      | ask request next =>
        rcases pending_or_done flow calls w events t.caller with pending | ⟨result, ended⟩
        · rcases turn_of_pending pending with ⟨same, -⟩ | ⟨write, finish, writes, ends, moved⟩
          · rw [Race.ledger, same] at found
            exact absurd (Ledger.mem_ids_iff.2 ⟨r, found⟩) mem
          · rw [Race.ledger, moved] at found
            obtain ⟨x, handed, same, owner⟩ := writes.handed?_of_adds mem found
            rw [asks] at pending
            have held := pending.held?_of_handed? ((Race.rest_turn_of_ask asks).symm.trans ends)
              handed
            refine ⟨t.caller, x, ⟨events, le, asks ▸ held⟩, ?_, same, owner⟩
            rwa [Race.result?_eq_some_iff.2 ends]
        · exact absurd (asks.symm.trans ended) (by simp)

/-- A token whose signer has failed never gets a record. -/
theorem find?_of_failed (empty : w.ledger.records = []) (apart : DrawsApart calls)
    (signed : (start flow calls w).Signed events i x) {e : Error}
    (failed : ((start flow calls w).during events).result? i = some (.error e))
    (le : pre <+: events) : ((start flow calls w).during pre).ledger.find? x.tokenId = none := by
  cases found : ((start flow calls w).during pre).ledger.find? x.tokenId with
  | none => rfl
  | some r =>
    obtain ⟨j, y, signed', handed, same, -⟩ := signed_of_find? empty found
    obtain rfl : i = j :=
      apart i j x.tokenId signed.issued.1 (by rw [← same]; exact signed'.issued.1)
    have handed := handed?_of_prefix le handed
    rw [failed, FlowCall.handed?_error] at handed
    simp at handed

end FlowRace

end Latchkey

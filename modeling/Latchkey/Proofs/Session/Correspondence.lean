import Latchkey.Proofs.Session.Signing
import Latchkey.Proofs.Token.Expiry

set_option autoImplicit false

/-! # Tokens and records correspond

Starting without records, a run has one record for each token that it has handed out and no others,
and the two agree with each other and with what was signed (`FlowRace.records_match_tokens`). One
half is that every record belongs to a token (`FlowRace.signed_of_find?`); the other is that a call
hands a token out only when the ledger has taken its record, which was unknown until then. -/

namespace Latchkey

namespace FlowCall

variable {flow : RefreshFlow} {call : FlowCall} {ledger later : Ledger} {write : LedgerCall}
  {finish : Except Error write.Answer → Except Error call.Value} {x : IssuedToken}
  {fault : Option Error}

/-- The moment of a call that may hand out a token. -/
def moment? : FlowCall → Option Moment
  | .issue m _ _ | .renew m _ => some m
  | .revoke _ _ | .revokeAll _ => none

/-- A token was issued at the moment of a call, and the ledger has the record that was made with
    it. -/
def Recorded (flow : RefreshFlow) (call : FlowCall) (ledger : Ledger) (x : IssuedToken) : Prop :=
  ∃ m algorithm custom r, call.moment? = some m
    ∧ flow.codec.issue algorithm x.tokenId x.userId custom m.now = .ok x
    ∧ ledger.find? x.tokenId = some r
    ∧ (LedgerRecord.issue x.tokenId x.userId m.now flow.codec.span).Ages r

theorem Recorded.mono (h : call.Recorded flow ledger x) (le : ledger ≤ later) :
    call.Recorded flow later x := by
  obtain ⟨m, algorithm, custom, r, moment, issues, found, ages⟩ := h
  obtain ⟨r', found', ages'⟩ := le.ages _ _ found
  exact ⟨m, algorithm, custom, r', moment, issues, found', ages.trans ages'⟩

/-- Adding the record of a token that was signed is recording the token. -/
theorem recorded_of_push {m : Moment} {algorithm : KeyAlgorithm} {userId : Uuid}
    {custom : Json.Members} (moment : call.moment? = some m)
    (signed : flow.codec.issue algorithm m.freshId userId custom m.now = .ok x)
    (fresh : ledger.contains (flow.newRecord m userId).id = false)
    (le : ledger.push (flow.newRecord m userId) fresh ≤ later) :
    x.tokenId ∉ ledger.ids ∧ call.Recorded flow later x := by
  obtain ⟨same, owner⟩ := TokenCodec.ids_of_issue signed
  have added : (ledger.push (flow.newRecord m userId) fresh).find? m.freshId
      = some (flow.newRecord m userId) := (Ledger.find?_push fresh).trans (if_pos rfl)
  obtain ⟨r, found, ages⟩ := le.ages _ _ added
  rw [Recorded, same, owner]
  refine ⟨fun mem => ?_, m, algorithm, custom, r, moment, signed, found, ages⟩
  exact absurd ((Ledger.contains_eq_true_iff.2 mem).symm.trans fresh) (by simp)

/-- A write that hands out a token has added its record, under an identifier that was unknown. -/
theorem Writes.recorded_of_handed? (h : Writes flow ledger call write finish)
    (handed : call.handed? (some (finish (ledger.respond fault write).1)) = some x) :
    x.tokenId ∉ ledger.ids ∧ call.Recorded flow (ledger.respond fault write).2 x := by
  -- Two writes hand a token out, and only if the ledger takes the record.
  cases fault with
  | some error => cases h <;> simp [handed?, Ledger.respond, Except.map] at handed
  | none =>
    cases h with
    | issue m userId custom algorithm issued signed =>
      simp only [Ledger.respond, Ledger.answer] at handed ⊢
      cases created : ledger.create (flow.newRecord m userId) with
      | error e => simp [created, handed?, Except.map] at handed
      | ok later =>
        rw [created] at handed
        obtain rfl : issued = x := Option.some.inj handed
        obtain ⟨-, fresh, rfl⟩ := Ledger.create_eq_ok_iff.1 created
        exact recorded_of_push rfl signed fresh (Ledger.le_refl _)
    | renew m token id old custom algorithm issued names was owns signed =>
      simp only [Ledger.respond, Ledger.answer] at handed ⊢
      cases rotated : ledger.rotate id (flow.newRecord m old.userId) with
      | error e => simp [rotated, handed?, Except.map] at handed
      | ok later =>
        rw [rotated] at handed
        obtain rfl : issued = x := Option.some.inj handed
        obtain ⟨-, -, fresh, rfl⟩ := Ledger.rotate_eq_ok_iff.1 rotated
        exact recorded_of_push rfl signed fresh (Ledger.le_invalidateWhere _)
    | revoke => simp [handed?] at handed
    | revokeAll => simp [handed?] at handed

end FlowCall

namespace FlowRace

variable {ι : Type} {calls : ι → FlowCall} {flow : RefreshFlow} {w : World}
  {race : FlowRace calls} {i j : ι} {x y : IssuedToken}

/-- A call has handed out a token. -/
def Handed (race : FlowRace calls) (i : ι) (x : IssuedToken) : Prop :=
  (calls i).handed? (race.result? i) = some x

/-- A call that has its write still before it has handed out nothing. -/
theorem not_handed_of_pending {ledger : Ledger}
    (pending : (calls i).Pending flow (race.rest i) ledger) (x : IssuedToken) :
    ¬ Handed race i x := by
  rw [Handed, Race.result?]
  cases asks : race.rest i with
  | done result =>
    rw [asks] at pending
    simp [FlowCall.Idle.handed?_eq_none pending]
  | ask request next => simp [FlowCall.handed?_none]

/-- Every token that was handed out has its record, and no two calls have handed out tokens of one
    identifier. -/
structure Matched (flow : RefreshFlow) (race : FlowRace calls) : Prop where
  recorded : ∀ i x, Handed race i x → (calls i).Recorded flow race.ledger x
  unique : ∀ i j x y, Handed race i x → Handed race j y → x.tokenId = y.tokenId → i = j

variable [DecidableEq ι] {t : Turn ι}

theorem handed_turn_of_ne (other : i ≠ t.caller) :
    Handed (race.turn t) i x ↔ Handed race i x := by
  rw [Handed, Handed, Race.result?, Race.result?, Race.rest_turn_of_ne other]

/-- A turn keeps tokens and records matched if what it hands out was not in the ledger before, and
    is then. -/
theorem Matched.turn (h : Matched flow race)
    (new : ∀ x, Handed (race.turn t) t.caller x → x.tokenId ∉ race.ledger.ids
      ∧ (calls t.caller).Recorded flow (race.turn t).ledger x) : Matched flow (race.turn t) := by
  have differs : ∀ i x y, Handed (race.turn t) t.caller x → Handed race i y →
      x.tokenId ≠ y.tokenId := by
    intro i x y handed handed' same
    obtain ⟨_, _, _, r, -, -, found, -⟩ := h.recorded i y handed'
    exact (new x handed).1 (Ledger.mem_ids_iff.2 ⟨r, same ▸ found⟩)
  refine ⟨fun i x handed => ?_, fun i j x y handed handed' same => ?_⟩
  · by_cases mine : i = t.caller
    · subst mine
      exact (new x handed).2
    · exact (h.recorded i x ((handed_turn_of_ne mine).1 handed)).mono (race.ledger_le_turn t)
  -- Of two holders one at most got its token by this turn.
  · by_cases mine : i = t.caller <;> by_cases mine' : j = t.caller
    · rw [mine, mine']
    · subst mine
      exact absurd same (differs j x y handed ((handed_turn_of_ne mine').1 handed'))
    · subst mine'
      exact absurd same.symm (differs i y x handed' ((handed_turn_of_ne mine).1 handed))
    · exact h.unique i j x y ((handed_turn_of_ne mine).1 handed)
        ((handed_turn_of_ne mine').1 handed') same

/-- Tokens and records match all along a run. -/
theorem matched_during (flow : RefreshFlow) (calls : ι → FlowCall) (w : World)
    (events : List (Event ι)) : Matched flow ((start flow calls w).during events) := by
  induction events using List.reverseRecOn with
  | nil =>
    have none : ∀ i x, ¬ Handed (start flow calls w) i x := fun i =>
      not_handed_of_pending ((calls i).pending_operation flow w.ledger)
    exact ⟨fun i x handed => absurd handed (none i x),
      fun i _ x _ handed => absurd handed (none i x)⟩
  | append_singleton events e ih =>
    rw [Race.during_concat]
    cases e with
    | change clock signing encryption => exact ⟨ih.recorded, ih.unique⟩
    | turn t =>
      rw [Race.happen]
      rcases pending_or_done flow calls w events t.caller with pending | ⟨result, ended⟩
      · refine ih.turn fun x handed => ?_
        rcases turn_of_pending pending with ⟨-, rest⟩ | ⟨write, finish, writes, ends, moved⟩
        · exact absurd handed (not_handed_of_pending rest x)
        · rw [Handed, Race.result?_eq_some_iff.2 ends] at handed
          rw [Race.ledger, Race.ledger, moved]
          exact writes.recorded_of_handed? handed
      · rwa [Race.turn_of_done ended rfl]

/-- Starting without records, at any point of any run:
    - The ledger has a record of an identifier if and only if a call has handed out a token of it,
      and then that is one call and one record.
    - Token, record and signed claims agree: on the identifier, the user, the time of issue, and on
      the expiry, which is exactly the lifetime later and in the claims cut to its second. Whatever
      claims are read from the token are those.
    - A token that is accepted has not expired, and its record has not either.
    - While its holder is told that a second is left, neither the token nor its record nor its
      claims have expired. -/
theorem records_match_tokens (flow : RefreshFlow) (calls : ι → FlowCall) (w : World)
    (empty : w.ledger.records = []) (events : List (Event ι)) :
    let race := (start flow calls w).during events
    race.ledger.ids.Nodup
      ∧ (∀ id, id ∈ race.ledger.ids ↔ ∃ i x, Handed race i x ∧ x.tokenId = id)
      ∧ (∀ i j x y, Handed race i x → Handed race j y → x.tokenId = y.tokenId → i = j ∧ x = y)
      ∧ ∀ i x, Handed race i x → ∃ m algorithm claims r, (calls i).moment? = some m
        ∧ race.ledger.find? x.tokenId = some r ∧ flow.codec.Agrees m.now x claims r
        ∧ Compact.write algorithm claims = .ok x.token
        ∧ (∀ read, Compact.payloadClaims? x.token = some read →
          read = { claims with custom := read.custom })
        ∧ ∀ t : Instant,
          (∀ key second found, flow.codec.verify key x.token t second = .ok found →
            t < x.expiresAt ∧ r.isExpiredAt t = false)
          ∧ (1 ≤ x.expiresIn t → r.isExpiredAt t = false ∧ claims.isExpiredAt t.seconds = false
            ∧ ∀ key, flow.codec.verify key x.token t t.seconds
              ≠ .error (.verification .expired)) := by
  intro race
  have matched : Matched flow race := matched_during flow calls w events
  refine ⟨race.ledger.distinct, fun id => ⟨fun mem => ?_, ?_⟩,
    fun i j x y handed handed' same => ?_, fun i x handed => ?_⟩
  · obtain ⟨r, found⟩ := Ledger.mem_ids_iff.1 mem
    obtain ⟨i, x, -, handed, same, -⟩ := signed_of_find? empty found
    exact ⟨i, x, handed, same⟩
  · rintro ⟨i, x, handed, rfl⟩
    obtain ⟨_, _, _, r, -, -, found, -⟩ := matched.recorded i x handed
    exact Ledger.mem_ids_iff.2 ⟨r, found⟩
  · obtain rfl := matched.unique i j x y handed handed' same
    exact ⟨rfl, Option.some.inj (handed.symm.trans handed')⟩
  · obtain ⟨m, algorithm, custom, r, moment, issues, found, ages⟩ := matched.recorded i x handed
    have agrees := (TokenCodec.agrees_of_issue issues).ages ages
    have current : ∀ {t : Instant}, t < x.expiresAt → r.isExpiredAt t = false := fun before => by
      rw [LedgerRecord.isExpiredAt, agrees.recorded]
      exact decide_eq_false fun expired => expired before
    refine ⟨m, algorithm, _, r, moment, found, agrees, TokenCodec.write_of_issue issues,
      fun read payload => TokenCodec.registered_of_payloadClaims? issues payload, fun t => ⟨?_, ?_⟩⟩
    · intro key second found verified
      have before := TokenCodec.verified_before_expiry issues verified
      exact ⟨before, current before⟩
    · intro left
      have before := TokenCodec.seconds_lt_of_expiresIn issues left
      refine ⟨current (.inl before), ?_, fun key => TokenCodec.verify_ne_expired issues key before⟩
      rw [Claims.isExpiredAt, agrees.signed]
      exact decide_eq_false (Int.not_le.2 before)

/-- A token of an hour that is issued five nanoseconds past a second has not expired when one second
    is left. -/
theorem issued_token_matches :
    let m : Moment := ⟨⟨0, 5⟩, .ofNat 1, 0⟩
    let race := (start (.sharing []) (fun _ : Unit => .issue m (.ofNat 2) [])
      (.withKey .zero .empty)).during
        [.turn ⟨(), none, .none⟩, .change ⟨9, 0⟩ .empty .empty, .turn ⟨(), none, .none⟩]
    race.ledger.ids = [.ofNat 1]
      ∧ ∃ x r, Handed race () x ∧ race.ledger.find? (.ofNat 1) = some r
        ∧ x.expiresAt = ⟨3600, 5⟩ ∧ r.expiresAt = ⟨3600, 5⟩ ∧ x.expiresIn ⟨3599, 5⟩ = 1
        ∧ r.isExpiredAt ⟨3599, 5⟩ = false := by
  intro m race
  have ids : race.ledger.ids = [.ofNat 1] := by decide +kernel
  obtain ⟨-, known, -, agree⟩ := records_match_tokens (.sharing [])
    (fun _ : Unit => .issue m (.ofNat 2) []) (.withKey .zero .empty) rfl
    [.turn ⟨(), none, .none⟩, .change ⟨9, 0⟩ .empty .empty, .turn ⟨(), none, .none⟩]
  obtain ⟨⟨⟩, x, handed, same⟩ := (known (.ofNat 1)).1 (ids ▸ List.mem_singleton.2 rfl)
  obtain ⟨m', _, claims, r, moment, found, agrees, -, -, times⟩ := agree () x handed
  obtain rfl : m = m' := Option.some.inj moment
  have anHour : m.now.add? (RefreshFlow.sharing []).codec.span = some ⟨3600, 5⟩ := by decide
  have expiry : x.expiresAt = ⟨3600, 5⟩ := Option.some.inj (agrees.inRange.symm.trans anHour)
  have left : x.expiresIn ⟨3599, 5⟩ = 1 := by
    rw [IssuedToken.expiresIn, expiry]
    rfl
  exact ⟨ids, x, r, handed, same ▸ found, expiry, agrees.recorded.trans expiry, left,
    ((times ⟨3599, 5⟩).2 (Int.le_of_eq left.symm)).1⟩

end FlowRace

end Latchkey

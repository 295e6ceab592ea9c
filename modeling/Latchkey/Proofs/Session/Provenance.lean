import Latchkey.Proofs.Session.OneWinner
import Latchkey.Proofs.Session.Ownership
import Latchkey.Proofs.Session.Signing

set_option autoImplicit false

/-! # Where exchanged tokens come from

Suppose that nobody can sign with a stored key but the flow, that the identifiers it draws are all
different, and that it starts without records. Then whatever is presented, in any run, a call
succeeds only with the header and the payload of a token that the flow has signed before
(`FlowRace.exchanges_own_tokens`): what was ever signed, whether its record was written or not,
determines what verifies, and the records are those of tokens that were handed out. -/

namespace Latchkey

namespace FlowRace

variable {ι : Type} [DecidableEq ι] {calls : ι → FlowCall}

/-! ## What is taken for granted -/

/-- Nobody forges: if a token is presented whose signature is accepted under a stored key, one of
    the calls has signed that message before. -/
def Unforged (flow : RefreshFlow) (race : FlowRace calls) (events : List (Event ι)) : Prop :=
  ∀ pre t, pre ++ [.turn t] <+: events → ∀ token parts, (calls t.caller).token? = some token →
    Compact.parts? token = some parts →
      let message := Compact.signedText parts.header parts.payload
      ∀ key ∈ (race.during pre).world.signing.keys, ∀ algorithm, flow.resolve key = .ok algorithm →
        algorithm.accepts (Bytes.ofText message) parts.signature = .ok true →
          ∃ j x, race.Signed pre j x ∧ Compact.message? x.token = some message

/-- A run that starts without records, draws different identifiers and sees no forgery, while
    resolving keys and stores fail in ways of their own. -/
structure Trusted (flow : RefreshFlow) (calls : ι → FlowCall) (w : World)
    (events : List (Event ι)) : Prop where
  empty : w.ledger.records = []
  apart : DrawsApart calls
  resolves : ∀ key e, flow.resolve key = .error e → e.External
  faults : ∀ t, .turn t ∈ events → ∀ e, t.fault = some e → e.External
  unforged : (start flow calls w).Unforged flow events

/-! ## What the calls get to know -/

/-- A token was signed before a call was answered the key that its own token names. -/
def SignedBefore (race : FlowRace calls) (events : List (Event ι)) (i : ι) (x : IssuedToken) :
    Prop :=
  ∃ pre t, pre ++ [.turn t] <+: events ∧ t.caller = i
    ∧ (∃ keyId next, (race.during pre).rest i = .ask (.signing (.read keyId)) next)
    ∧ ∃ j, race.Signed pre j x

/-- What a call gets to know in a run. -/
def knowledge (race : FlowRace calls) (events : List (Event ι)) (i : ι) : FlowCall.Knowledge where
  known := race.SignedBefore events i
  recorded id userId := ∃ r, (race.during events).ledger.find? id = some r ∧ r.userId = userId

variable {flow : RefreshFlow} {w : World} {events pre : List (Event ι)} {i j : ι} {x : IssuedToken}
  {t : Turn ι}

/-- If all answers that a caller gets are fit, it ends as its program does then. -/
theorem ends_during {race : FlowRace calls} {fit : (r : Request) → r.Answer → Prop}
    {result : Except Error (calls i).Value → Prop} (ends : (race.rest i).Ends fit result)
    (fits : ∀ pre t request next, pre ++ [.turn t] <+: events → t.caller = i →
      (race.during pre).rest i = .ask request next →
        fit request ((race.during pre).world.respond t.fault t.draw request).1) :
    ((race.during events).rest i).Ends fit result := by
  induction events using List.reverseRecOn with
  | nil => exact ends
  | append_singleton events e ih =>
    have before := ih fun pre t request next le => fits pre t request next
      (le.trans (List.prefix_append _ _))
    rw [Race.during_concat]
    by_cases mine : ∃ t, e = .turn t ∧ t.caller = i
    · obtain ⟨t, rfl, rfl⟩ := mine
      cases asks : (race.during events).rest t.caller with
      | done value =>
        rw [Race.rest_happen_of_done asks, ← asks]
        exact before
      | ask request next =>
        rw [asks] at before
        rw [Race.happen, Race.rest_turn_of_ask asks]
        exact before _ (fits events t request next (List.prefix_refl _) rfl asks)
    · rwa [Race.rest_happen_of_ne fun t turn own => mine ⟨t, turn, own.symm⟩]

theorem SignedBefore.signed {race : FlowRace calls} (h : race.SignedBefore events i x) :
    ∃ j, race.Signed events j x := by
  obtain ⟨pre, t, le, -, -, j, signed⟩ := h
  exact ⟨j, signed.mono ((List.prefix_append _ _).trans le)⟩

/-- The record of a signed token is for its user. -/
theorem Trusted.owner_eq (h : Trusted flow calls w events)
    (signed : (start flow calls w).Signed events j x) {r : LedgerRecord}
    (found : ((start flow calls w).during events).ledger.find? x.tokenId = some r) :
    r.userId = x.userId := by
  obtain ⟨k, y, signed', -, same, owner⟩ := signed_of_find? h.empty found
  obtain rfl : k = j := h.apart k j x.tokenId (by rw [← same]; exact signed'.issued.1) signed.issued.1
  rw [← owner, signed_unique signed' signed]

/-- A token that verifies under a stored key has the message of a token that was signed. -/
theorem Trusted.exists_signed (h : Trusted flow calls w events) (le : pre ++ [.turn t] <+: events)
    {token : String} (presents : (calls t.caller).token? = some token) {key : SigningKey}
    (mem : key ∈ ((start flow calls w).during pre).world.signing.keys) {algorithm : KeyAlgorithm}
    (resolved : flow.resolve key = .ok algorithm) {now : Instant} {second : Int} {claims : Claims}
    (verified : flow.codec.verify algorithm token now second = .ok claims) :
    ∃ j x, (start flow calls w).Signed pre j x
      ∧ Compact.message? token = Compact.message? x.token ∧ flow.codec.IssuedWith x claims := by
  obtain ⟨-, checked, -⟩ := TokenCodec.verify_eq_ok_iff.1 verified
  obtain ⟨parts, -, split, -, -, accepted, -, -⟩ := Compact.check_eq_ok_iff.1 checked
  obtain ⟨j, x, signed, message⟩ :=
    h.unforged pre t le token parts presents split key mem algorithm resolved accepted
  have same := (Compact.message?_of_parts? split).trans message.symm
  obtain ⟨-, algorithm', custom, now', issues⟩ := signed.issued
  exact ⟨j, x, signed, same, TokenCodec.issuedWith_of_message? issues same
    (TokenCodec.payloadClaims?_of_verify verified)⟩

/-- All answers in such a run are fit. -/
theorem Trusted.fit_respond (h : Trusted flow calls w events) (le : pre ++ [.turn t] <+: events)
    {request : Request}
    {next : request.Answer → Program Request Request.Answer (Except Error (calls t.caller).Value)}
    (asks : ((start flow calls w).during pre).rest t.caller = .ask request next) :
    (calls t.caller).Fit flow ((start flow calls w).knowledge events t.caller) request
      (((start flow calls w).during pre).world.respond t.fault t.draw request).1 := by
  have mem : Event.turn t ∈ events := le.subset (List.mem_append_right _ (List.mem_singleton_self _))
  have external := h.faults t mem
  match request, next, asks with
  | .signing (.read keyId), next, asks =>
    cases fault : t.fault with
    | some e => exact external e fault
    | none =>
      intro key algorithm now token claims found presents resolved verified
      obtain ⟨j, x, signed, same, issued⟩ := h.exists_signed le presents.token?_eq
        (List.mem_of_find?_eq_some found) resolved verified
      exact ⟨x, ⟨pre, t, le, rfl, ⟨keyId, next, asks⟩, j, signed⟩, same, issued⟩
  | .signing (.recentUsable _), _, _ =>
    cases fault : t.fault with
    | some e => exact external e fault
    | none => trivial
  | .ledger (.find id), _, _ =>
    cases fault : t.fault with
    | some e => exact external e fault
    | none =>
      intro r found
      obtain ⟨r', found', ages⟩ :=
        (Race.ledger_le_during ((List.prefix_append pre [.turn t]).trans le)).ages id r found
      exact ⟨r', found', ages.userId_eq⟩
  | .ledger (.create _), _, _ | .ledger (.rotate _ _), _, _ | .ledger (.invalidate _), _, _
  | .ledger (.invalidateAll _), _, _ | .ledger (.ofUser _), _, _ =>
    rw [World.respond_ledger]
    exact FlowCall.fit_ledger (by simp) fun e failed => Ledger.ne_notOwner_of_respond external failed
  | .signing (.create _), _, _ | .signing (.retire _), _, _ | .encryption _, _, _
  | .lockRefill, _, _ | .unlockRefill, _, _ | .drawSeed, _, _ | .drawKeyPair _, _, _ => trivial

/-- A call that has ended in such a run has ended soundly. -/
theorem Trusted.sound (h : Trusted flow calls w events) {result : Except Error (calls i).Value}
    (ended : ((start flow calls w).during events).result? i = some result) :
    (calls i).Sound flow ((start flow calls w).knowledge events i) result := by
  have own : ∀ x userId, ((start flow calls w).knowledge events i).known x →
      ((start flow calls w).knowledge events i).recorded x.tokenId userId → userId = x.userId := by
    rintro x userId known ⟨r, found, rfl⟩
    obtain ⟨j, signed⟩ := SignedBefore.signed known
    exact h.owner_eq signed found
  have finished : (((start flow calls w).during events).rest i).Ends
      ((calls i).Fit flow ((start flow calls w).knowledge events i))
      ((calls i).Sound flow ((start flow calls w).knowledge events i)) := by
    refine ends_during ?_ fun pre t request next le mine asks => ?_
    · exact FlowCall.ends_operation h.resolves own
    · subst mine
      exact h.fit_respond le asks
  rwa [Race.result?_eq_some_iff.1 ended] at finished

/-! ## Tokens without a record -/

/-- In its first turn a caller is answered the key that its token names, under which the token
    verifies, and in its second it is answered by the ledger. -/
def Verified (flow : RefreshFlow) (race : FlowRace calls) (events : List (Event ι)) (i : ι)
    (now : Instant) (token : String) : Prop :=
  ∃ pre draw mid draw',
    pre ++ [.turn ⟨i, none, draw⟩] ++ mid ++ [.turn ⟨i, none, draw'⟩] <+: events
      ∧ (∀ t, .turn t ∈ pre ++ mid → t.caller ≠ i)
      ∧ ∃ keyText key algorithm claims, TokenCodec.keyNamed token = .ok (keyText, key.id)
        ∧ key ∈ (race.during pre).world.signing.keys ∧ flow.resolve key = .ok algorithm
        ∧ flow.codec.verify algorithm token now now.seconds = .ok claims

end FlowRace

/-- A call that presents a token asks for its key, then for the record that it names, and ends if
    there is none. -/
theorem FlowCall.Presents.asks (flow : RefreshFlow) {call : FlowCall} {now : Instant}
    {token keyText : String} {keyId : Uuid} (h : call.Presents now token)
    (named : TokenCodec.keyNamed token = .ok (keyText, keyId)) :
    ∃ next, (call.operation flow).run = .ask (.signing (.read keyId)) next
      ∧ ∀ key? p, flow.presentedUnder now token keyText key? = .ok p →
        ∃ next', next (.ok key?) = .ask (.ledger (.find p.tokenId)) next'
          ∧ next' (.ok none) = .done (.error (.verification .unknownToken)) := by
  cases h with
  | renew m token =>
    refine ⟨_, by rw [operation, RefreshFlow.run_renew, RefreshFlow.verifyPresented_bind, named],
      fun key? p shown => ?_⟩
    simp only [shown]
    exact ⟨_, rfl, rfl⟩
  | revoke now token =>
    refine ⟨_, by rw [operation, RefreshFlow.run_revoke, RefreshFlow.verifyPresented_bind, named],
      fun key? p shown => ?_⟩
    simp only [shown]
    exact ⟨_, rfl, rfl⟩

/-- A login whose token is signed asks for keys, then to write the record of that token. -/
theorem RefreshFlow.asks_issue {flow : RefreshFlow} {w : World} {m : Moment} {userId : Uuid}
    {custom : Json.Members} {issued : IssuedToken}
    (signs : flow.signed w m (flow.newRecord m userId) custom = .ok issued) :
    ∃ next, (flow.issue m userId custom).run
        = .ask (.signing (.recentUsable flow.window.size)) next
      ∧ next (.ok (w.signing.recentUsable flow.window.size))
        = .ask (.ledger (.create (flow.newRecord m userId))) fun answer =>
          .done (answer.map fun _ => issued) := by
  refine ⟨_, by rw [run_issue, signFor_bind], ?_⟩
  unfold signed at signs
  simp only [signs]

namespace FlowRace

variable {ι : Type} [DecidableEq ι] {calls : ι → FlowCall} {flow : RefreshFlow} {w : World}
  {events : List (Event ι)} {i j : ι} {x : IssuedToken}

/-- Whoever presents a signed token whose signer has failed is told that it is unknown. -/
theorem Trusted.unknown_of_failed (h : Trusted flow calls w events)
    (signed : (start flow calls w).Signed events i x) {e : Error}
    (failed : ((start flow calls w).during events).result? i = some (.error e)) {now : Instant}
    {token : String} (presents : (calls j).Presents now token)
    (same : Compact.message? token = Compact.message? x.token)
    (verified : (start flow calls w).Verified flow events j now token) :
    ((start flow calls w).during events).result? j = some (.error (.verification .unknownToken)) := by
  obtain ⟨pre, draw, mid, draw', le, others, keyText, key, algorithm, claims, named, mem, resolved,
    verifies⟩ := verified
  obtain ⟨-, algorithm', custom, now', issues⟩ := signed.issued
  have issued := TokenCodec.issuedWith_of_message? issues same
    (TokenCodec.payloadClaims?_of_verify verifies)
  have shown : flow.presentedUnder now token keyText (some key) = .ok ⟨claims, x.userId, x.tokenId⟩ :=
    RefreshFlow.presentedUnder_eq_ok_iff.2
      ⟨key, algorithm, rfl, resolved, verifies, issued.userId_eq, issued.recordId_eq⟩
  obtain ⟨next, begins, goesOn⟩ := presents.asks flow named
  obtain ⟨next', looks, ends⟩ := goesOn (some key) _ shown
  have asks : ((start flow calls w).during pre).rest j = .ask (.signing (.read key.id)) next :=
    (Race.rest_during_of_ne fun t mem => others t (List.mem_append_left _ mem)).trans begins
  have found : ((start flow calls w).during (pre ++ [.turn ⟨j, none, draw⟩])).rest j
      = .ask (.ledger (.find x.tokenId)) next' := by
    rw [Race.during_concat, ← looks]
    exact (Race.rest_turn_of_ask asks).trans
      (congrArg next (congrArg Except.ok (Pool.read?_of_mem mem)))
  have waits : ((start flow calls w).during (pre ++ [.turn ⟨j, none, draw⟩] ++ mid)).rest j
      = .ask (.ledger (.find x.tokenId)) next' := by
    rw [Race.during_append,
      Race.rest_during_of_ne fun t mem => others t (List.mem_append_right _ mem)]
    exact found
  have unrecorded := find?_of_failed h.empty h.apart signed failed
    ((List.prefix_append (pre ++ [.turn ⟨j, none, draw⟩] ++ mid) _).trans le)
  refine Race.result?_during_of_prefix le (Race.result?_eq_some_iff.2 ?_)
  rw [Race.during_concat, ← ends]
  exact (Race.rest_turn_of_ask waits).trans (congrArg next' (congrArg Except.ok unrecorded))

/-- Only the flow's own tokens can be exchanged. In a run that starts without records, draws different
    identifiers and sees no forgery:
    - A renewal or revocation succeeds only with the header and the payload of a token that was
      signed before, which says what that was issued with. There is a record for that token, of its
      user, and the call can make no other record invalid.
    - No call ever finds that the record of its token is another user's.
    - Where a token was signed but the call that signed it has failed, everybody who presents it and
      gets it verified is answered that it is unknown. -/
theorem exchanges_own_tokens (flow : RefreshFlow) (calls : ι → FlowCall) (w : World)
    (events : List (Event ι)) (trusted : Trusted flow calls w events) :
    let race := start flow calls w
    (∀ i now token value, (calls i).Presents now token →
        (race.during events).result? i = some (.ok value) →
          ∃ x claims, race.SignedBefore events i x
            ∧ Compact.message? token = Compact.message? x.token
            ∧ Compact.payloadClaims? token = some claims ∧ flow.codec.IssuedWith x claims
            ∧ (∃ r, (race.during events).ledger.find? x.tokenId = some r ∧ r.userId = x.userId)
            ∧ ∀ id, race.Invalidates events i id → id = x.tokenId)
      ∧ (∀ i, (race.during events).result? i
        ≠ some (.error (.invalidClaim "sub" "does not own the token")))
      ∧ ∀ i x e, race.Signed events i x → (race.during events).result? i = some (.error e) →
        ∀ j now token, (calls j).Presents now token →
          Compact.message? token = Compact.message? x.token → race.Verified flow events j now token →
            (race.during events).result? j = some (.error (.verification .unknownToken)) := by
  refine ⟨fun i now token value presents succeeded => ?_, fun i failed => ?_,
    fun i x e signed failed j now token presents same verified =>
      trusted.unknown_of_failed signed failed presents same verified⟩
  · obtain ⟨x, claims, known, same, found, issued, recorded⟩ :=
      (trusted.sound succeeded).2 now token value presents rfl
    refine ⟨x, claims, known, same, found, issued, recorded, fun id invalidates => ?_⟩
    have names := invalidates.recordOf?_eq presents.token?_eq
    rw [Compact.recordOf?, found, Option.bind_some, issued.recordId_eq] at names
    exact (Option.some.inj names).symm
  · exact (trusted.sound failed).1 rfl

/-- A user who logs in and then logs out with the token: the token that is revoked is the one that
    was issued, and nothing else becomes invalid. -/
theorem revokes_own_token :
    ∃ issued, (RefreshFlow.sharing []).codec.issue (.hs256 Uuid.zero.toText []) (.ofNat 1)
        (.ofNat 2) [] ⟨0, 0⟩ = .ok issued ∧
      let calls : Bool → FlowCall
        | false => .issue ⟨⟨0, 0⟩, .ofNat 1, 0⟩ (.ofNat 2) []
        | true => .revoke ⟨1, 0⟩ issued.token
      let race := start (.sharing []) calls (.withKey .zero .empty)
      let events := List.replicate 2 (.turn ⟨false, none, .none⟩)
        ++ List.replicate 3 (.turn ⟨true, none, .none⟩)
      (race.during events).result? true = some (.ok true)
        ∧ ∀ id, race.Invalidates events true id → id = .ofNat 1 := by
  obtain ⟨issued, issues, -, good⟩ := RefreshFlow.exists_first ⟨Claims.shaped_nil, trivial⟩
  refine ⟨issued, issues, ?_⟩
  intro calls race events
  have signs : (RefreshFlow.sharing []).signed (.withKey .zero .empty) ⟨⟨0, 0⟩, .ofNat 1, 0⟩
      ((RefreshFlow.sharing []).newRecord ⟨⟨0, 0⟩, .ofNat 1, 0⟩ (.ofNat 2)) [] = .ok issued :=
    RefreshFlow.signedUnder_eq_ok_iff.2 ⟨_, _, rfl, rfl, issues⟩
  have recorded : (race.during (List.replicate 2 (.turn ⟨false, none, .none⟩))).world
      = .withKey .zero .oneToken := by
    have alone := race.during_replicate_turn false ((calls false).within_operation _) .none
    have issuing : (race.rest false).run (World.answer .none) race.world
        = (.ok issued, .withKey .zero .oneToken) := RefreshFlow.run_issue_first issues
    rw [issuing] at alone
    exact alone.2
  have presents : (RefreshFlow.sharing []).presented (.withKey .zero .oneToken) ⟨1, 0⟩ issued.token
      = .ok ⟨(RefreshFlow.sharing []).codec.claimsOf [] ⟨0, 0⟩ issued, .ofNat 2, .ofNat 1⟩ :=
    (good ⟨1, 0⟩ (by decide) .oneToken).2.2
  have succeeded : (race.during events).result? true = some (.ok true) := by
    have waits : (race.during (List.replicate 2 (.turn ⟨false, none, .none⟩))).rest true
        = ((calls true).operation (.sharing [])).run := by
      refine Race.rest_during_of_ne fun t mem => ?_
      obtain rfl := Event.turn.inj (List.eq_of_mem_replicate mem)
      simp
    have alone := (race.during (List.replicate 2 (.turn ⟨false, none, .none⟩))).during_replicate_turn
      true (by rw [waits]; exact (calls true).within_operation _) .none
    have revoking := RefreshFlow.run_revoke_alone (.sharing []) .none (.withKey .zero .oneToken)
      ⟨1, 0⟩ issued.token
    rw [presents] at revoking
    rw [waits, recorded] at alone
    rw [Race.result?_eq_some_iff, Race.during_append]
    exact alone.1.trans (congrArg Program.done (congrArg Prod.fst revoking))
  have held : (calls false).held? ((race.during [.turn ⟨false, none, .none⟩]).rest false)
      = some issued := by
    obtain ⟨next, asks, goesOn⟩ := RefreshFlow.asks_issue signs
    have answered : (race.during [.turn ⟨false, none, .none⟩]).rest false
        = next (.ok ((World.withKey .zero .empty).signing.recentUsable _)) :=
      @Race.rest_turn_of_ask Bool _ _ race ⟨false, none, .none⟩ _ _ asks
    rw [answered, goesOn]
    rfl
  have trusted : Trusted (.sharing []) calls (.withKey .zero .empty) events := by
    refine ⟨rfl, ?_, ?_, ?_, ?_⟩
    · intro i j id
      cases i <;> cases j <;> simp [calls, FlowCall.freshId?]
    · intro key e refused
      cases refused
    · intro t mem e fault
      rcases List.mem_append.1 mem with mem | mem
      all_goals
        obtain rfl := Event.turn.inj (List.eq_of_mem_replicate mem)
        simp at fault
    · rintro pre ⟨caller, fault, draw⟩ le token parts presents split message key - algorithm - -
      cases caller with
      | false => simp [calls, FlowCall.token?] at presents
      | true =>
        obtain rfl : issued.token = token := Option.some.inj presents
        have first : [.turn ⟨false, none, .none⟩] <+: pre := by
          cases pre with
          | nil => simpa using (List.cons_prefix_cons.1 le).1
          | cons e pre =>
            obtain ⟨rfl, -⟩ := List.cons_prefix_cons.1 le
            exact ⟨pre, rfl⟩
        exact ⟨false, issued, ⟨_, first, held⟩, Compact.message?_of_parts? split⟩
  refine ⟨succeeded, fun id invalidates => ?_⟩
  obtain ⟨x, claims, known, -, -, -, -, only⟩ :=
    (exchanges_own_tokens _ calls _ events trusted).1 true ⟨1, 0⟩ issued.token true
      (.revoke ⟨1, 0⟩ issued.token) succeeded
  rw [only id invalidates]
  obtain ⟨j, signed⟩ := known.signed
  cases j with
  | false => exact (Option.some.inj signed.issued.1).symm
  | true => simpa [calls, FlowCall.freshId?] using signed.issued.1

end FlowRace

end Latchkey

import Latchkey.Proofs.Session.Call
import Latchkey.Proofs.Token.Authentic

set_option autoImplicit false

/-! # What a call can end with

If the answers that a call gets are fit, so that a token verifies only if its message is that of a
known token, and records belong to the users of these, then the call can only succeed with the
message of a known token, and never finds the record of another user
(`FlowCall.ends_operation`). -/

namespace Latchkey

/-! ## Failures that have nothing to do with a record -/

namespace Error

/-- The failure of a call whose token names the record of another user. -/
def notOwner : Error :=
  .invalidClaim "sub" "does not own the token"

/-- A failure that is not one of those that the record of a token gives rise to: that it is another
    user's, or that it is not valid. -/
def External (e : Error) : Prop :=
  e ≠ notOwner ∧ e ≠ .verification .revoked

theorem external_rejected {α : Type} {r : Rejection} {e : Error}
    (refused : (TokenCodec.rejected r : Except Error α) = .error e) : e.External := by
  obtain rfl := Except.error.inj refused
  cases r <;> simp [External, notOwner, Rejection.toVerificationError]

theorem external_malformed (reason : String) : (malformed reason).External := by
  simp [External, notOwner, malformed]

end Error

namespace TokenCodec

variable {codec : TokenCodec} {algorithm : KeyAlgorithm} {token : String} {now : Instant}
  {second : Int} {e : Error}

theorem external_of_verify (refused : codec.verify algorithm token now second = .error e) :
    e.External := by
  unfold verify at refused
  split at refused
  · exact Error.external_rejected refused
  split at refused
  · exact Except.error.inj refused ▸ Error.external_malformed _
  split at refused
  · exact Error.external_rejected refused
  split at refused
  · exact Except.error.inj refused ▸ (by simp [Error.External, Error.notOwner])
  · simp at refused

theorem external_of_decode (refused : decode token = .error e) : e.External := by
  obtain ⟨reason, rfl⟩ := malformed_of_decode refused
  exact Error.external_malformed reason

theorem external_of_keyNamed (refused : keyNamed token = .error e) : e.External := by
  unfold keyNamed at refused
  rcases except_bind_eq_error_iff.1 refused with undecoded | ⟨decoded, -, refused⟩
  · exact external_of_decode undecoded
  split at refused
  · exact Except.error.inj refused ▸ (by simp [Error.External, Error.notOwner])
  · rename_i text _
    cases read : Claims.identifier "kid" text with
    | ok id => simp [read, Except.map] at refused
    | error e' =>
      rw [read] at refused
      obtain rfl : e' = e := Except.error.inj refused
      unfold Claims.identifier at read
      split at read
      · simp at read
      · exact Except.error.inj read ▸ (by simp [Error.External, Error.notOwner])

theorem external_of_issue {tokenId userId : Uuid} {custom : Json.Members}
    (refused : codec.issue algorithm tokenId userId custom now = .error e) : e.External := by
  unfold issue at refused
  split at refused
  · exact Except.error.inj refused ▸ (by simp [Error.External, Error.notOwner])
  split at refused
  · exact Except.error.inj refused ▸ (by simp [Error.External, Error.notOwner])
  · simp at refused

end TokenCodec

/-- A ledger does not fail because of owners. -/
theorem Ledger.ne_notOwner_of_answer {ledger : Ledger} {call : LedgerCall} {e : Error}
    (failed : (ledger.answer call).1 = .error e) : e ≠ .notOwner := by
  have created {r : LedgerRecord} {e : Error} (failed : ledger.create r = .error e) :
      e ≠ .notOwner := by
    unfold Ledger.create at failed
    repeat' split at failed
    all_goals cases failed
    all_goals simp [Error.notOwner]
  cases call with
  | create r =>
    simp only [answer] at failed
    split at failed
    · simp at failed
    · rename_i refused
      exact Except.error.inj failed ▸ created refused
  | rotate old s =>
    simp only [answer] at failed
    split at failed
    · simp at failed
    · rename_i refused
      obtain rfl := Except.error.inj failed
      unfold Ledger.rotate at refused
      split at refused
      · exact Except.error.inj refused ▸ (by simp [Error.notOwner])
      split at refused
      · cases added : ledger.create s with
        | ok later => simp [added, Except.map] at refused
        | error e =>
          rw [added] at refused
          exact Except.error.inj refused ▸ created added
      · exact Except.error.inj refused ▸ (by simp [Error.notOwner])
  | find | ofUser | invalidate | invalidateAll => simp [answer] at failed

theorem Ledger.ne_notOwner_of_respond {fault : Option Error} {ledger : Ledger} {call : LedgerCall}
    (external : ∀ e, fault = some e → e.External) {e : Error}
    (failed : (ledger.respond fault call).1 = .error e) : e ≠ .notOwner := by
  cases fault with
  | none => exact ne_notOwner_of_answer failed
  | some e' => exact Except.error.inj failed ▸ (external e' rfl).1

/-! ## Programs with fit answers -/

/-- However the requests of a program are answered, it ends with such a result as long as the
    answers are fit. -/
def Program.Ends {R : Type} {A : R → Type} {α : Type} (fit : (r : R) → A r → Prop)
    (result : α → Prop) : Program R A α → Prop
  | .done a => result a
  | .ask r next => ∀ answer, fit r answer → (next answer).Ends fit result

namespace FlowCall

/-- A call presents a token at an instant. -/
inductive Presents : FlowCall → Instant → String → Prop
  | renew (m : Moment) (token : String) : Presents (.renew m token) m.now token
  | revoke (now : Instant) (token : String) : Presents (.revoke now token) now token

/-- What is known of the tokens and records of a run. -/
structure Knowledge where
  /-- A token was signed. -/
  known : IssuedToken → Prop
  /-- The ledger has a record under the identifier for the user. -/
  recorded : Uuid → Uuid → Prop

variable {flow : RefreshFlow} {call : FlowCall} {facts : Knowledge} {now : Instant}
  {token : String}

theorem Presents.token?_eq (h : call.Presents now token) : call.token? = some token := by
  cases h <;> rfl

/-- A token has the message of a known token, says what that was issued with, and there is a record
    for it. -/
def Accounts (flow : RefreshFlow) (facts : Knowledge) (token : String) : Prop :=
  ∃ x claims, facts.known x ∧ Compact.message? token = Compact.message? x.token
    ∧ Compact.payloadClaims? token = some claims ∧ flow.codec.IssuedWith x claims
    ∧ facts.recorded x.tokenId x.userId

/-- An answer that a call can expect: only known tokens verify under the key that is found, only the
    records there are are found, and stores fail in their own ways. -/
def Fit (flow : RefreshFlow) (facts : Knowledge) (call : FlowCall) :
    (request : Request) → request.Answer → Prop
  | .signing (.read _), .ok key? =>
    ∀ key algorithm now token claims, key? = some key → call.Presents now token →
      flow.resolve key = .ok algorithm →
        flow.codec.verify algorithm token now now.seconds = .ok claims →
          ∃ x, facts.known x ∧ Compact.message? token = Compact.message? x.token
            ∧ flow.codec.IssuedWith x claims
  | .signing (.read _), .error e | .signing (.recentUsable _), .error e => e.External
  | .ledger (.find id), .ok record? => ∀ r, record? = some r → facts.recorded id r.userId
  | .ledger (.find _), .error e => e.External
  | .ledger _, .error e => e ≠ .notOwner
  | _, _ => True

/-- Of any answer of the ledger but to a look-up, it is enough that it does not fail because of an
    owner. -/
theorem fit_ledger {write : LedgerCall} {answer : Except Error write.Answer}
    (other : ∀ id, write ≠ .find id) (failed : ∀ e, answer = .error e → e ≠ .notOwner) :
    call.Fit flow facts (.ledger write) answer := by
  cases write with
  | find id => exact absurd rfl (other id)
  | create | ofUser | invalidate | rotate | invalidateAll =>
    cases answer with
    | error e => exact failed e rfl
    | ok value => trivial

/-- A result that is not about another user's record, and is a success only for a token that is
    accounted for. -/
def Sound (flow : RefreshFlow) (facts : Knowledge) (call : FlowCall)
    (result : Except Error call.Value) : Prop :=
  result ≠ .error .notOwner
    ∧ ∀ now token value, call.Presents now token → result = .ok value → Accounts flow facts token

theorem sound_error {e : Error} (differs : e ≠ .notOwner) : call.Sound flow facts (.error e) :=
  ⟨fun same => differs (Except.error.inj same), fun _ _ _ _ same => by simp at same⟩

theorem sound_ok {value : call.Value}
    (accounts : ∀ now token, call.Presents now token → Accounts flow facts token) :
    call.Sound flow facts (.ok value) :=
  ⟨fun same => by simp at same, fun now token _ presents _ => accounts now token presents⟩

/-- What is left of a call ends soundly. -/
abbrev EndsSoundly (flow : RefreshFlow) (facts : Knowledge) (call : FlowCall)
    (p : Program Request Request.Answer (Except Error call.Value)) : Prop :=
  p.Ends (call.Fit flow facts) (call.Sound flow facts)

theorem external_of_signedUnder (resolves : ∀ key e, flow.resolve key = .error e → e.External)
    {m : Moment} {record : LedgerRecord} {custom : Json.Members} {keys : List SigningKey}
    {e : Error} (refused : flow.signedUnder m record custom keys = .error e) : e.External := by
  unfold RefreshFlow.signedUnder at refused
  split at refused
  · exact Except.error.inj refused ▸ (by simp [Error.External, Error.notOwner])
  · rcases except_bind_eq_error_iff.1 refused with unresolved | ⟨_, -, refused⟩
    · exact resolves _ _ unresolved
    · exact TokenCodec.external_of_issue refused

theorem ends_signFor (resolves : ∀ key e, flow.resolve key = .error e → e.External)
    {m : Moment} {record : LedgerRecord} {custom : Json.Members}
    {k : Except Error IssuedToken → Program Request Request.Answer (Except Error call.Value)}
    (failed : ∀ e, e.External → call.EndsSoundly flow facts (k (.error e)))
    (signed : ∀ issued, call.EndsSoundly flow facts (k (.ok issued))) :
    call.EndsSoundly flow facts ((flow.signFor m record custom).run.bind k) := by
  rw [EndsSoundly, RefreshFlow.signFor_bind]
  intro answer fit
  rcases answer with e | keys
  · exact failed e fit
  dsimp only
  cases refused : flow.signedUnder m record custom keys with
  | error e => exact failed e (external_of_signedUnder resolves refused)
  | ok issued => exact signed issued

/-- Under a fit key, the only failures are external ones. -/
theorem external_of_presentedUnder
    (resolves : ∀ key e, flow.resolve key = .error e → e.External)
    (presents : call.Presents now token) {keyId : Uuid} {keyText : String}
    {key? : Option SigningKey} (fit : call.Fit flow facts (.signing (.read keyId)) (.ok key?))
    {e : Error} (refused : flow.presentedUnder now token keyText key? = .error e) : e.External := by
  rcases key? with _ | key
  · exact Except.error.inj refused ▸ (by simp [Error.External, Error.notOwner])
  rcases except_bind_eq_error_iff.1 refused with unresolved | ⟨algorithm, resolved, refused⟩
  · exact resolves _ _ unresolved
  rcases except_bind_eq_error_iff.1 refused with unverified | ⟨claims, verified, refused⟩
  · exact TokenCodec.external_of_verify unverified
  obtain ⟨x, -, -, issued⟩ := fit key algorithm now token claims rfl presents resolved verified
  simp [issued.userId_eq, issued.recordId_eq, Except.bind, Except.map] at refused

theorem ends_verifyPresented (resolves : ∀ key e, flow.resolve key = .error e → e.External)
    (own : ∀ x userId, facts.known x → facts.recorded x.tokenId userId → userId = x.userId)
    (presents : call.Presents now token)
    {k : Except Error PresentedToken → Program Request Request.Answer (Except Error call.Value)}
    (failed : ∀ e, e ≠ .notOwner → (e = .verification .revoked → Accounts flow facts token) →
      call.EndsSoundly flow facts (k (.error e)))
    (admitted : ∀ p, Accounts flow facts token → call.EndsSoundly flow facts (k (.ok p))) :
    call.EndsSoundly flow facts ((flow.verifyPresented now token).run.bind k) := by
  have outside (e : Error) (external : e.External) : call.EndsSoundly flow facts (k (.error e)) :=
    failed e external.1 fun same => absurd same external.2
  rw [EndsSoundly, RefreshFlow.verifyPresented_bind]
  cases named : TokenCodec.keyNamed token with
  | error e => exact outside e (TokenCodec.external_of_keyNamed named)
  | ok key =>
    obtain ⟨keyText, keyId⟩ := key
    intro answer fit
    rcases answer with e | key?
    · exact outside e fit
    dsimp only
    cases shown : flow.presentedUnder now token keyText key? with
    | error e => exact outside e (external_of_presentedUnder resolves presents fit shown)
    | ok p =>
      obtain ⟨key, algorithm, found, resolved, verified, owner, record⟩ :=
        RefreshFlow.presentedUnder_eq_ok_iff.1 shown
      obtain ⟨x, known, message, issued⟩ :=
        fit key algorithm now token p.claims found presents resolved verified
      have user : p.userId = x.userId := Except.ok.inj (owner.symm.trans issued.userId_eq)
      have id : p.tokenId = x.tokenId := Except.ok.inj (record.symm.trans issued.recordId_eq)
      intro answer fit
      rcases answer with e | record?
      · exact outside e fit
      rcases record? with _ | r
      · exact outside _ (by simp [Error.External, Error.notOwner])
      -- The record that is found is that of the known token, and so is its user.
      have recorded : facts.recorded x.tokenId r.userId := id ▸ fit r rfl
      have same := own x r.userId known recorded
      have accounts : Accounts flow facts token :=
        ⟨x, p.claims, known, message, TokenCodec.payloadClaims?_of_verify verified, issued,
          same ▸ recorded⟩
      dsimp only
      cases valid : r.isValid with
      | true =>
        rw [PresentedToken.against_eq_ok_iff.2 ⟨rfl, r, rfl, same.trans user.symm, valid⟩]
        exact admitted p accounts
      | false =>
        rw [PresentedToken.against_of_invalid (same.trans user.symm) valid]
        exact failed _ (by simp [Error.notOwner]) fun _ => accounts

/-- Every call ends soundly if its answers are fit. -/
theorem ends_operation (resolves : ∀ key e, flow.resolve key = .error e → e.External)
    (own : ∀ x userId, facts.known x → facts.recorded x.tokenId userId → userId = x.userId) :
    call.EndsSoundly flow facts (call.operation flow).run := by
  cases call with
  | issue m userId custom =>
    rw [operation, RefreshFlow.run_issue]
    refine ends_signFor resolves (fun e external => sound_error external.1) fun issued => ?_
    intro answer fit
    rcases answer with e | r
    · exact sound_error fit
    · exact sound_ok fun now token presents => by cases presents
  | renew m token =>
    rw [operation, RefreshFlow.run_renew]
    refine ends_verifyPresented resolves own (.renew m token)
      (fun e differs _ => sound_error differs) fun p accounts => ?_
    refine ends_signFor resolves (fun e external => sound_error external.1) fun issued => ?_
    intro answer fit
    rcases answer with e | r
    · exact sound_error fit
    · refine sound_ok ?_
      rintro _ _ ⟨⟩
      exact accounts
  | revoke now token =>
    rw [operation, RefreshFlow.run_revoke]
    refine ends_verifyPresented resolves own (.revoke now token) (fun e differs revoked => ?_)
      fun p accounts => ?_
    · split
      · rename_i same
        cases same
      · rename_i same
        refine sound_ok ?_
        rintro _ _ ⟨⟩
        exact revoked (Except.error.inj same)
      · rename_i same
        exact sound_error (Except.error.inj same ▸ differs)
    · intro answer fit
      rcases answer with e | found
      · exact sound_error fit
      · refine sound_ok ?_
        rintro _ _ ⟨⟩
        exact accounts
  | revokeAll userId =>
    intro answer fit
    rcases answer with e | n
    · exact sound_error fit
    · exact sound_ok fun now token presents => by cases presents

end FlowCall

end Latchkey

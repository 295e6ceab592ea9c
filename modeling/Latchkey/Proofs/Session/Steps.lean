import Latchkey.Proofs.Token.Check
import Latchkey.Session.Flow

set_option autoImplicit false

/-! # The flow, request by request

Between two requests a call only computes. These computations are named here, and each part of the
flow is written as its requests with the computations between them, followed by whatever comes next
(`RefreshFlow.verifyPresented_bind`, `RefreshFlow.signFor_bind`). -/

namespace Latchkey

/-- The key that a token names in its header: the text, and the identifier that this writes. -/
def TokenCodec.keyNamed (token : String) : Except Error (String × Uuid) :=
  (decode token).bind fun decoded =>
    match decoded.keyId with
    | none => .error (.invalidClaim "kid" "missing")
    | some text => (Claims.identifier "kid" text).map fun id => (text, id)

/-- A token names a key if its header can be read and has the text of an identifier there. -/
theorem TokenCodec.keyNamed_eq_ok_iff {token text : String} {id : Uuid} :
    keyNamed token = .ok (text, id)
      ↔ ∃ decoded, decode token = .ok decoded ∧ decoded.keyId = some text
        ∧ Uuid.parse text = .ok id := by
  unfold keyNamed
  rw [except_bind_eq_ok_iff]
  refine exists_congr fun decoded => and_congr_right fun _ => ?_
  cases decoded.keyId with
  | none => simp
  | some text' =>
    simp only [Option.some.injEq]
    constructor
    · intro named
      cases read : Claims.identifier "kid" text' with
      | error e => simp [read, Except.map] at named
      | ok id' =>
        rw [read] at named
        obtain ⟨same, rfl⟩ := Prod.mk.inj (Except.ok.inj named)
        exact ⟨same, same ▸ Claims.identifier_eq_ok_iff.1 read⟩
    · rintro ⟨rfl, parsed⟩
      rw [Claims.identifier_eq_ok_iff.2 parsed]
      rfl

/-- A presented token checked against the record that was found for it. -/
def PresentedToken.against (presented : PresentedToken) : Option LedgerRecord →
    Except Error PresentedToken
  | none => .error (.verification .unknownToken)
  | some record =>
    if record.userId ≠ presented.userId then .error (.invalidClaim "sub" "does not own the token")
    else if record.isValid then .ok presented
    else .error (.verification .revoked)

namespace RefreshFlow

/-- What a token presents, given the key that was found for it. -/
def presentedUnder (flow : RefreshFlow) (now : Instant) (token keyText : String) :
    Option SigningKey → Except Error PresentedToken
  | none => .error (.noSuchKey keyText)
  | some key =>
    (flow.resolve key).bind fun algorithm =>
      (flow.codec.verify algorithm token now now.seconds).bind fun claims =>
        claims.userId.bind fun userId =>
          claims.recordId.map fun tokenId => ⟨claims, userId, tokenId⟩

/-- The signed token of a record, given the keys of the window. -/
def signedUnder (flow : RefreshFlow) (m : Moment) (record : LedgerRecord) (custom : Json.Members)
    (candidates : List SigningKey) : Except Error IssuedToken :=
  match KeyWindow.pick? candidates m.draw with
  | none => .error .noUsableKey
  | some key =>
    (flow.resolve key).bind fun algorithm =>
      flow.codec.issue algorithm record.id record.userId custom m.now

variable {β : Type}

theorem signFor_bind (flow : RefreshFlow) (m : Moment) (record : LedgerRecord)
    (custom : Json.Members) (k : Except Error IssuedToken → Program Request Request.Answer β) :
    (flow.signFor m record custom).run.bind k
      = .ask (.signing (.recentUsable flow.window.size)) fun
        | .error e => k (.error e)
        | .ok keys => k (flow.signedUnder m record custom keys) := by
  simp only [signFor, KeyWindow.select, Operation.signing, Operation.ask, Program.request,
    Operation.ofResult, ExceptT.run_bind, ExceptT.run_mk, Program.bind_eq, Program.ask_bind,
    Program.done_bind]
  congr 1
  funext answer
  rcases answer with e | keys
  · rfl
  simp only [signedUnder]
  rcases KeyWindow.pick? keys m.draw with _ | key
  · rfl
  simp only [ExceptT.run_pure, Program.pure_eq, Program.done_bind]
  cases flow.resolve key <;> rfl

theorem verifyPresented_bind (flow : RefreshFlow) (now : Instant) (token : String)
    (k : Except Error PresentedToken → Program Request Request.Answer β) :
    (flow.verifyPresented now token).run.bind k
      = match TokenCodec.keyNamed token with
        | .error e => k (.error e)
        | .ok (keyText, keyId) => .ask (.signing (.read keyId)) fun
          | .error e => k (.error e)
          | .ok key? =>
            match flow.presentedUnder now token keyText key? with
            | .error e => k (.error e)
            | .ok presented => .ask (.ledger (.find presented.tokenId)) fun
              | .error e => k (.error e)
              | .ok record? => k (presented.against record?) := by
  -- Both sides are taken apart in step: a part that fails ends both, and the next one is shown.
  simp only [verifyPresented, TokenCodec.keyNamed, Operation.ofResult, ExceptT.run_bind,
    ExceptT.run_mk, Program.bind_eq, Program.done_bind]
  rcases TokenCodec.decode token with e | decoded
  · rfl
  simp only [Except.bind]
  rcases decoded.keyId with _ | keyText
  · rfl
  simp only [ExceptT.run_bind, ExceptT.run_mk, Program.bind_eq, Program.done_bind]
  rcases Claims.identifier "kid" keyText with e | keyId
  · rfl
  simp only [Except.map, Operation.signing, Operation.ask, Program.request, ExceptT.run_mk,
    Program.ask_bind, Program.done_bind]
  congr 1
  funext answer
  rcases answer with e | _ | key
  · rfl
  · rfl
  simp only [presentedUnder, ExceptT.run_bind, ExceptT.run_mk, Program.bind_eq, Program.done_bind]
  rcases flow.resolve key with e | algorithm
  · rfl
  simp only [Except.bind]
  rcases flow.codec.verify algorithm token now now.seconds with e | claims
  · rfl
  dsimp only
  rcases claims.userId with e | userId
  · rfl
  dsimp only
  rcases claims.recordId with e | tokenId
  · rfl
  simp only [Except.map, Operation.ledger, Operation.ask, Program.request, ExceptT.run_mk,
    Program.ask_bind, Program.done_bind]
  congr 1
  funext answer
  rcases answer with e | _ | record
  · rfl
  · rfl
  simp only [PresentedToken.against]
  split <;> cases record.isValid <;> rfl

/-! ## Whole calls -/

theorem run_issue (flow : RefreshFlow) (m : Moment) (userId : Uuid) (custom : Json.Members) :
    (flow.issue m userId custom).run
      = (flow.signFor m (flow.newRecord m userId) custom).run.bind fun
        | .error e => .done (.error e)
        | .ok issued => .ask (.ledger (.create (flow.newRecord m userId))) fun answer =>
          .done (answer.map fun _ => issued) := by
  simp only [issue, ExceptT.run_bind, Program.bind_eq]
  congr 1
  funext signed
  rcases signed with e | issued
  · rfl
  simp only [Operation.ledger, Operation.ask, Program.request, ExceptT.run_mk, Program.ask_bind,
    Program.done_bind]
  congr 1
  funext answer
  cases answer <;> rfl

theorem run_renew (flow : RefreshFlow) (m : Moment) (token : String) :
    (flow.renew m token).run = (flow.verifyPresented m.now token).run.bind fun
      | .error e => .done (.error e)
      | .ok p => (flow.signFor m (flow.newRecord m p.userId) p.claims.custom).run.bind fun
        | .error e => .done (.error e)
        | .ok issued => .ask (.ledger (.rotate p.tokenId (flow.newRecord m p.userId))) fun answer =>
          .done (answer.map fun _ => issued) := by
  simp only [renew, ExceptT.run_bind, Program.bind_eq]
  congr 1
  funext presented
  rcases presented with e | p
  · rfl
  dsimp only [ExceptT.run_bind, Program.bind_eq]
  congr 1
  funext signed
  rcases signed with e | issued
  · rfl
  simp only [Operation.ledger, Operation.ask, Program.request, ExceptT.run_mk, Program.ask_bind,
    Program.done_bind]
  congr 1
  funext answer
  cases answer <;> rfl

theorem run_revoke (flow : RefreshFlow) (now : Instant) (token : String) :
    (flow.revoke now token).run = (flow.verifyPresented now token).run.bind fun
      | .ok p => .ask (.ledger (.invalidate p.tokenId)) .done
      | .error (.verification .revoked) => .done (.ok false)
      | .error e => .done (.error e) :=
  rfl

/-! ## What the computations accept -/

variable {flow : RefreshFlow} {now : Instant} {m : Moment} {token keyText : String}
  {key? : Option SigningKey} {presented : PresentedToken}

theorem presentedUnder_eq_ok_iff :
    flow.presentedUnder now token keyText key? = .ok presented
      ↔ ∃ key algorithm, key? = some key ∧ flow.resolve key = .ok algorithm
        ∧ flow.codec.verify algorithm token now now.seconds = .ok presented.claims
        ∧ presented.claims.userId = .ok presented.userId
        ∧ presented.claims.recordId = .ok presented.tokenId := by
  rcases key? with _ | key
  · simp [presentedUnder]
  simp only [presentedUnder, except_bind_eq_ok_iff, Option.some.injEq, exists_and_left,
    exists_eq_left']
  refine exists_congr fun algorithm => and_congr_right fun _ => ?_
  constructor
  · rintro ⟨claims, verified, userId, owner, h⟩
    cases named : claims.recordId with
    | error e => simp [named, Except.map] at h
    | ok tokenId =>
      simp only [named, Except.map, Except.ok.injEq] at h
      subst h
      exact ⟨verified, owner, named⟩
  · rintro ⟨verified, owner, named⟩
    exact ⟨_, verified, _, owner, by simp [named, Except.map]⟩

/-- What a presented token presents is what its payload names. -/
theorem names_of_presentedUnder (h : flow.presentedUnder now token keyText key? = .ok presented) :
    Compact.recordOf? token = some presented.tokenId
      ∧ Compact.userOf? token = some presented.userId := by
  obtain ⟨key, algorithm, -, -, verified, owner, named⟩ := presentedUnder_eq_ok_iff.1 h
  have read := TokenCodec.payloadClaims?_of_verify verified
  simp [Compact.recordOf?, Compact.userOf?, read, owner, named, Except.toOption]

theorem signedUnder_eq_ok_iff {record : LedgerRecord} {custom : Json.Members}
    {keys : List SigningKey} {issued : IssuedToken} :
    flow.signedUnder m record custom keys = .ok issued
      ↔ ∃ key algorithm, KeyWindow.pick? keys m.draw = some key ∧ flow.resolve key = .ok algorithm
        ∧ flow.codec.issue algorithm record.id record.userId custom m.now = .ok issued := by
  unfold signedUnder
  cases KeyWindow.pick? keys m.draw with
  | none => simp
  | some key => simp [except_bind_eq_ok_iff]

end RefreshFlow

theorem PresentedToken.against_eq_ok_iff {presented shown : PresentedToken}
    {record? : Option LedgerRecord} :
    presented.against record? = .ok shown
      ↔ shown = presented
        ∧ ∃ r, record? = some r ∧ r.userId = presented.userId ∧ r.isValid = true := by
  rcases record? with _ | r
  · simp [against]
  by_cases owns : r.userId = presented.userId
  · cases valid : r.isValid with
    | false => simp [against, owns, valid]
    | true => simpa [against, owns, valid] using eq_comm
  · simp [against, owns]

/-- A user's record that is no longer valid gives its token away as revoked. -/
theorem PresentedToken.against_of_invalid {presented : PresentedToken} {r : LedgerRecord}
    (owns : r.userId = presented.userId) (invalid : r.isValid = false) :
    presented.against (some r) = .error (.verification .revoked) := by
  simp [against, owns, invalid]

end Latchkey

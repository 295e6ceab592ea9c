import Latchkey.Proofs.Ledger.Aging
import Latchkey.Proofs.Session.Steps

set_option autoImplicit false

/-! # Calls of the refresh flow

Each call of the flow reads a few things, then writes the ledger at most once, and ends with that
write: if the write fails, so does the call. `FlowCall.Pending` says this of a program that has run
up to some point, over a ledger that others may move forward in the meantime, and says what the
write can be; `FlowCall.pending_operation` proves it of all four calls. -/

namespace Latchkey

/-! ## Answers -/

/-- The world's answer to a request. A store can be made to fail instead of acting, with any
    error. -/
def World.respond (fault : Option Error) (draw : Draw) :
    Program.Handler Request Request.Answer World := fun request w =>
  match fault, request with
  | some error, .signing _ | some error, .encryption _ | some error, .ledger _ => (.error error, w)
  | _, request => World.answer draw request w

/-- Among other things, it can fail as a store does that reports a failure. -/
theorem World.respond_storage (message : String) (draw : Draw) :
    World.respond (some (.storage message)) draw = World.disturbed (.fails message) draw := by
  funext request w
  cases request <;> rfl

/-- The ledger's answer to a call, where it can be made to fail instead of acting. -/
def Ledger.respond (fault : Option Error) (ledger : Ledger) (call : LedgerCall) :
    Except Error call.Answer × Ledger :=
  match fault with
  | none => ledger.answer call
  | some error => (.error error, ledger)

theorem World.respond_ledger (fault : Option Error) (draw : Draw) (call : LedgerCall) (w : World) :
    w.respond fault draw (.ledger call)
      = ((w.ledger.respond fault call).1,
        { w with ledger := (w.ledger.respond fault call).2 }) := by
  cases fault <;> rfl

/-! ## The four calls -/

/-- A call of the flow with everything that it is given and draws. -/
inductive FlowCall
  | issue (m : Moment) (userId : Uuid) (custom : Json.Members)
  | renew (m : Moment) (token : String)
  | revoke (now : Instant) (token : String)
  | revokeAll (userId : Uuid)

namespace FlowCall

/-- What a call answers when it succeeds. -/
abbrev Value : FlowCall → Type
  | .issue _ _ _ => IssuedToken
  | .renew _ _ => IssuedToken
  | .revoke _ _ => Bool
  | .revokeAll _ => Nat

/-- What a call does. -/
def operation (flow : RefreshFlow) : (call : FlowCall) → Operation call.Value
  | .issue m userId custom => flow.issue m userId custom
  | .renew m token => flow.renew m token
  | .revoke now token => flow.revoke now token
  | .revokeAll userId => RefreshFlow.revokeAll userId

/-- The token that is presented. -/
def token? : FlowCall → Option String
  | .renew _ token | .revoke _ token => some token
  | .issue _ _ _ | .revokeAll _ => none

/-- What a call answers that finds the record of its token invalid already. -/
def lost : (call : FlowCall) → Except Error call.Value
  | .revoke _ _ => .ok false
  | .issue _ _ _ | .renew _ _ | .revokeAll _ => .error (.verification .revoked)

/-- What a call can answer without having written anything. -/
def Idle : (call : FlowCall) → Except Error call.Value → Prop
  | _, .error _ => True
  | .revoke _ _, .ok found => found = false
  | .issue _ _ _, .ok _ | .renew _ _, .ok _ | .revokeAll _, .ok _ => False

/-- The writes that a call can make on a ledger, and how it ends then: what it answers to the
    ledger's answer. A token that is exchanged or revoked names a record of its user. -/
inductive Writes (flow : RefreshFlow) (ledger : Ledger) :
    (call : FlowCall) → (write : LedgerCall) → (Except Error write.Answer → Except Error call.Value)
      → Prop
  | issue (m : Moment) (userId : Uuid) (custom : Json.Members) (algorithm : KeyAlgorithm)
      (issued : IssuedToken)
      (signed : flow.codec.issue algorithm m.freshId userId custom m.now = .ok issued) :
      Writes flow ledger (.issue m userId custom) (.create (flow.newRecord m userId))
        fun answer => answer.map fun _ => issued
  | renew (m : Moment) (token : String) (id : Uuid) (old : LedgerRecord) (custom : Json.Members)
      (algorithm : KeyAlgorithm) (issued : IssuedToken)
      (names : Compact.recordOf? token = some id) (found : ledger.find? id = some old)
      (owns : Compact.userOf? token = some old.userId)
      (signed : flow.codec.issue algorithm m.freshId old.userId custom m.now = .ok issued) :
      Writes flow ledger (.renew m token) (.rotate id (flow.newRecord m old.userId))
        fun answer => answer.map fun _ => issued
  | revoke (now : Instant) (token : String) (tokenId : Uuid) (old : LedgerRecord)
      (names : Compact.recordOf? token = some tokenId) (found : ledger.find? tokenId = some old)
      (owns : Compact.userOf? token = some old.userId) :
      Writes flow ledger (.revoke now token) (.invalidate tokenId) id
  | revokeAll (userId : Uuid) :
      Writes flow ledger (.revokeAll userId) (.invalidateAll userId) id

/-- A request is a call's last: it writes, and the call answers what the ledger's answer makes of
    it, however far others have moved the ledger when it is answered. -/
def Closes (flow : RefreshFlow) (call : FlowCall) (write : LedgerCall)
    (next : Except Error write.Answer → Program Request Request.Answer (Except Error call.Value))
    (ledger : Ledger) : Prop :=
  ∀ later, ledger ≤ later →
    ∃ finish, Writes flow later call write finish ∧ ∀ answer, next answer = .done (finish answer)

/-- What is left of a call when it last saw `ledger`: reads, then one write or none. A look at the
    ledger is at the record that the token names, and ends the call if that is the user's and no
    longer valid. -/
def Pending (flow : RefreshFlow) (call : FlowCall) :
    Program Request Request.Answer (Except Error call.Value) → Ledger → Prop
  | .done result, _ => call.Idle result
  | .ask (.signing (.read _)) next, ledger => ∀ answer, Pending flow call (next answer) ledger
  | .ask (.signing (.recentUsable _)) next, ledger =>
    ∀ answer, Pending flow call (next answer) ledger
  | .ask (.ledger (.find id)) next, ledger =>
    ∃ token, call.token? = some token ∧ Compact.recordOf? token = some id
      ∧ (∀ later error, ledger ≤ later → Pending flow call (next (.error error)) later)
      ∧ (∀ later, ledger ≤ later → Pending flow call (next (.ok (later.find? id))) later)
      ∧ ∀ r : LedgerRecord, Compact.userOf? token = some r.userId → r.isValid = false →
        next (.ok (some r)) = .done call.lost
  | .ask (.ledger (.create r)) next, ledger => Closes flow call (.create r) next ledger
  | .ask (.ledger (.rotate old s)) next, ledger => Closes flow call (.rotate old s) next ledger
  | .ask (.ledger (.invalidate id)) next, ledger => Closes flow call (.invalidate id) next ledger
  | .ask (.ledger (.invalidateAll u)) next, ledger =>
    Closes flow call (.invalidateAll u) next ledger
  | .ask _ _, _ => False

variable {flow : RefreshFlow} {call : FlowCall} {ledger later : Ledger}

theorem Closes.mono {write : LedgerCall}
    {next : Except Error write.Answer → Program Request Request.Answer (Except Error call.Value)}
    (h : call.Closes flow write next ledger) (le : ledger ≤ later) :
    call.Closes flow write next later :=
  fun l le' => h l (Ledger.le_trans le le')

theorem Pending.mono {p : Program Request Request.Answer (Except Error call.Value)}
    (h : call.Pending flow p ledger) (le : ledger ≤ later) : call.Pending flow p later := by
  induction p generalizing ledger later with
  | done result => exact h
  | ask request next ih =>
    match request, next, ih, h with
    | .signing (.read _), _, ih, h => exact fun answer => ih answer (h answer) le
    | .signing (.recentUsable _), _, ih, h => exact fun answer => ih answer (h answer) le
    | .ledger (.find _), _, _, h =>
      obtain ⟨token, presented, names, failed, found, lost⟩ := h
      exact ⟨token, presented, names, fun l e le' => failed l e (Ledger.le_trans le le'),
        fun l le' => found l (Ledger.le_trans le le'), lost⟩
    | .ledger (.create _), _, _, h => exact Closes.mono h le
    | .ledger (.rotate _ _), _, _, h => exact Closes.mono h le
    | .ledger (.invalidate _), _, _, h => exact Closes.mono h le
    | .ledger (.invalidateAll _), _, _, h => exact Closes.mono h le

/-! ## All four calls are such -/

theorem pending_signFor {m : Moment} {record : LedgerRecord} {custom : Json.Members}
    {k : Except Error IssuedToken → Program Request Request.Answer (Except Error call.Value)}
    (failed : ∀ e, call.Pending flow (k (.error e)) ledger)
    (signed : ∀ algorithm issued,
      flow.codec.issue algorithm record.id record.userId custom m.now = .ok issued →
        call.Pending flow (k (.ok issued)) ledger) :
    call.Pending flow ((flow.signFor m record custom).run.bind k) ledger := by
  rw [RefreshFlow.signFor_bind]
  intro answer
  rcases answer with e | keys
  · exact failed e
  dsimp only
  cases h : flow.signedUnder m record custom keys with
  | error e => exact failed e
  | ok issued =>
    obtain ⟨_, algorithm, -, -, issues⟩ := RefreshFlow.signedUnder_eq_ok_iff.1 h
    exact signed algorithm issued issues

theorem pending_verifyPresented {now : Instant} {token : String}
    (presents : call.token? = some token)
    {k : Except Error PresentedToken → Program Request Request.Answer (Except Error call.Value)}
    (failed : ∀ e l, ledger ≤ l → call.Pending flow (k (.error e)) l)
    (lost : k (.error (.verification .revoked)) = .done call.lost)
    (admitted : ∀ p l old, ledger ≤ l → Compact.recordOf? token = some p.tokenId →
      l.find? p.tokenId = some old → Compact.userOf? token = some old.userId →
        old.userId = p.userId → call.Pending flow (k (.ok p)) l) :
    call.Pending flow ((flow.verifyPresented now token).run.bind k) ledger := by
  have ended : ∀ e, call.Pending flow (k (.error e)) ledger := fun e => failed e _ ledger.le_refl
  rw [RefreshFlow.verifyPresented_bind]
  rcases TokenCodec.keyNamed token with e | ⟨keyText, keyId⟩
  · exact ended e
  intro answer
  rcases answer with e | key?
  · exact ended e
  dsimp only
  cases shown : flow.presentedUnder now token keyText key? with
  | error e => exact ended e
  | ok p =>
    obtain ⟨names, owns⟩ := RefreshFlow.names_of_presentedUnder shown
    -- Others may have moved the ledger since, but the record it finds is checked as it is then.
    refine ⟨token, presents, names, fun l e le => failed e l le, fun l le => ?_,
      fun r mine invalid => ?_⟩
    · cases result : p.against (l.find? p.tokenId) with
      | error e => simpa only [result] using failed e l le
      | ok q =>
        obtain ⟨rfl, old, found, same, -⟩ := PresentedToken.against_eq_ok_iff.1 result
        simpa only [result] using admitted q l old le names found (same ▸ owns) same
    · have same : r.userId = p.userId := Option.some.inj (mine.symm.trans owns)
      dsimp only
      rw [PresentedToken.against_of_invalid same invalid]
      exact lost

/-- Every call is reads and then one write or none, from its start. -/
theorem pending_operation (flow : RefreshFlow) (call : FlowCall) (ledger : Ledger) :
    call.Pending flow (call.operation flow).run ledger := by
  cases call with
  | issue m userId custom =>
    rw [operation, RefreshFlow.run_issue]
    refine pending_signFor (fun e => trivial) fun algorithm issued signed => ?_
    exact fun l _ => ⟨_, .issue m userId custom algorithm issued signed, fun answer => rfl⟩
  | renew m token =>
    rw [operation, RefreshFlow.run_renew]
    refine pending_verifyPresented rfl (fun e l _ => trivial) rfl
      fun p l old le names found owns same => ?_
    refine pending_signFor (fun e => trivial) fun algorithm issued signed => ?_
    intro l' le'
    -- By now the record may be invalid, but its user is the same, and so is the successor's.
    obtain ⟨old', found', ages⟩ := le'.ages _ _ found
    have user : old'.userId = p.userId := ages.userId_eq.trans same
    refine ⟨_, ?_, fun answer => rfl⟩
    rw [← user]
    exact .renew m token p.tokenId old' _ algorithm issued names found'
      (ages.userId_eq ▸ owns) (user ▸ signed)
  | revoke now token =>
    rw [operation, RefreshFlow.run_revoke]
    refine pending_verifyPresented rfl (fun e l _ => ?_) rfl
      fun p l old le names found owns same => ?_
    · split
      · rename_i h
        cases h
      · rfl
      · trivial
    · intro l' le'
      obtain ⟨old', found', ages⟩ := le'.ages _ _ found
      exact ⟨_, .revoke now token p.tokenId old' names found' (ages.userId_eq ▸ owns),
        fun answer => rfl⟩
  | revokeAll userId => exact fun l _ => ⟨_, .revokeAll userId, fun answer => rfl⟩

/-! ## One request -/

/-- What answering a call's next request does: either it is a read and the call goes on, or it is
    the call's write and ends it. -/
theorem Pending.respond {request : Request} {w : World}
    {next : request.Answer → Program Request Request.Answer (Except Error call.Value)}
    (h : call.Pending flow (.ask request next) w.ledger) (fault : Option Error) (draw : Draw) :
    ((w.respond fault draw request).2 = w
        ∧ call.Pending flow (next (w.respond fault draw request).1) w.ledger)
      ∨ ∃ write finish, Writes flow w.ledger call write finish
        ∧ next (w.respond fault draw request).1 = .done (finish (w.ledger.respond fault write).1)
        ∧ (w.respond fault draw request).2
          = { w with ledger := (w.ledger.respond fault write).2 } := by
  have closing : ∀ (write : LedgerCall)
      (next : Except Error write.Answer → Program Request Request.Answer (Except Error call.Value)),
      call.Closes flow write next w.ledger → ∃ finish, Writes flow w.ledger call write finish
        ∧ next (w.respond fault draw (.ledger write)).1
          = .done (finish (w.ledger.respond fault write).1)
        ∧ (w.respond fault draw (.ledger write)).2
          = { w with ledger := (w.ledger.respond fault write).2 } := by
    intro write next closes
    obtain ⟨finish, writes, ends⟩ := closes w.ledger w.ledger.le_refl
    rw [World.respond_ledger]
    exact ⟨finish, writes, ends _, rfl⟩
  match request, next, h with
  | .signing (.read _), _, h => cases fault <;> exact .inl ⟨rfl, h _⟩
  | .signing (.recentUsable _), _, h => cases fault <;> exact .inl ⟨rfl, h _⟩
  | .ledger (.find id), _, h =>
    obtain ⟨-, -, -, failed, found, -⟩ := h
    cases fault with
    | none => exact .inl ⟨rfl, found _ w.ledger.le_refl⟩
    | some error => exact .inl ⟨rfl, failed _ _ w.ledger.le_refl⟩
  | .ledger (.create r), next, h => exact .inr ⟨_, closing (.create r) next h⟩
  | .ledger (.rotate old s), next, h => exact .inr ⟨_, closing (.rotate old s) next h⟩
  | .ledger (.invalidate id), next, h => exact .inr ⟨_, closing (.invalidate id) next h⟩
  | .ledger (.invalidateAll u), next, h => exact .inr ⟨_, closing (.invalidateAll u) next h⟩

/-- A call that asks the ledger when the record of its token is invalid has lost, and changes
    nothing. -/
theorem Pending.lost_of_invalid {lookup : LedgerCall} {token : String} {id : Uuid}
    {r : LedgerRecord}
    {next : Except Error lookup.Answer → Program Request Request.Answer (Except Error call.Value)}
    (h : call.Pending flow (.ask (.ledger lookup) next) ledger)
    (presents : call.token? = some token) (names : Compact.recordOf? token = some id)
    (owns : Compact.userOf? token = some r.userId) (found : ledger.find? id = some r)
    (invalid : r.isValid = false) :
    next (ledger.answer lookup).1 = .done call.lost ∧ (ledger.answer lookup).2 = ledger := by
  cases lookup with
  | create s =>
    obtain ⟨finish, writes, -⟩ := h ledger ledger.le_refl
    cases writes
    simp [token?] at presents
  | find id' =>
    obtain ⟨token', presents', names', -, -, lost⟩ := h
    obtain rfl : token = token' := Option.some.inj (presents.symm.trans presents')
    obtain rfl : id = id' := Option.some.inj (names.symm.trans names')
    simp only [Ledger.answer, found]
    exact ⟨lost r owns invalid, trivial⟩
  | ofUser userId => exact h.elim
  | invalidate id' =>
    obtain ⟨finish, writes, ends⟩ := h ledger ledger.le_refl
    cases writes with
    | revoke now token' old r' names' found' owns' =>
      obtain rfl : token' = token := Option.some.inj presents
      obtain rfl : id = id' := Option.some.inj (names.symm.trans names')
      have gone : ledger.hasValid id = false := (Ledger.hasValid_of_find? found).trans invalid
      rw [ends]
      simp only [Ledger.answer, gone, Ledger.invalidate_eq_self gone]
      exact ⟨rfl, trivial⟩
  | rotate old s =>
    obtain ⟨finish, writes, ends⟩ := h ledger ledger.le_refl
    cases writes with
    | renew m token' old r' custom algorithm issued names' found' owns' signed =>
      obtain rfl : token' = token := Option.some.inj presents
      obtain rfl : id = old := Option.some.inj (names.symm.trans names')
      rw [ends]
      simp only [Ledger.answer, Ledger.rotate_of_invalid found invalid]
      exact ⟨rfl, trivial⟩
  | invalidateAll userId =>
    obtain ⟨finish, writes, -⟩ := h ledger ledger.le_refl
    cases writes
    simp [token?] at presents

/-- A call that answers with a failure does so because the ledger did. -/
theorem Writes.error_of_finish {write : LedgerCall}
    {finish : Except Error write.Answer → Except Error call.Value}
    (h : Writes flow ledger call write finish) {answer : Except Error write.Answer} {e : Error}
    (failed : finish answer = .error e) : answer = .error e := by
  cases h with
  | issue m userId custom algorithm issued signed =>
    cases answer <;> simp_all [Except.map]
  | renew m token id old custom algorithm issued names found owns signed =>
    cases answer <;> simp_all [Except.map]
  | revoke now token id old names found owns => exact failed
  | revokeAll userId => exact failed

end FlowCall

/-- A ledger call that fails changes nothing. -/
theorem Ledger.respond_of_error {fault : Option Error} {ledger : Ledger} {call : LedgerCall}
    {e : Error} (failed : (ledger.respond fault call).1 = .error e) :
    (ledger.respond fault call).2 = ledger := by
  cases fault with
  | some error => rfl
  | none =>
    cases call with
    | create r =>
      simp only [respond, answer] at failed ⊢
      split <;> simp_all
    | find id => rfl
    | ofUser userId => rfl
    | invalidate id => simp [respond, answer] at failed
    | rotate old s =>
      simp only [respond, answer] at failed ⊢
      split <;> simp_all
    | invalidateAll userId => simp [respond, answer] at failed

theorem Ledger.le_respond (fault : Option Error) (ledger : Ledger) (call : LedgerCall) :
    ledger ≤ (ledger.respond fault call).2 := by
  cases fault with
  | none => exact ledger.le_answer call
  | some error => exact ledger.le_refl

/-- Whatever the world is asked, its ledger only moves forward. -/
theorem World.ledger_le_respond (fault : Option Error) (draw : Draw) (w : World)
    (request : Request) : w.ledger ≤ (w.respond fault draw request).2.ledger := by
  match request with
  | .ledger call =>
    rw [World.respond_ledger]
    exact Ledger.le_respond fault w.ledger call
  | .signing _ | .encryption _ | .lockRefill | .unlockRefill | .drawSeed | .drawKeyPair _ =>
    cases fault <;> exact w.ledger.le_refl

end Latchkey

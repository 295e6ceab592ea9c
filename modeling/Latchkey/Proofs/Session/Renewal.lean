import Latchkey.Proofs.Session.Presented
import Latchkey.Proofs.Session.Call

set_option autoImplicit false

/-! # When a renewal succeeds

A renewal that runs alone succeeds exactly if its token can be exchanged: it names a key of the pool
and verifies under it, its record is a valid one of its user, and a successor can be signed and
recorded (`Exchange.Admitted`). All that it answers and leaves behind is determined by these
(`Exchange.Outcome`), and of the ledger only two places change. -/

namespace Latchkey

/-! ## Algorithms -/

namespace KeyAlgorithm

/-- An algorithm can sign whatever it is given. -/
def CanSign (algorithm : KeyAlgorithm) : Prop :=
  ∀ message, ∃ signature, algorithm.sign message = .ok signature

/-- Whether there is a signature does not depend on the message. -/
theorem canSign_of_sign {algorithm : KeyAlgorithm} {message : Bytes} {signature : String}
    (signed : algorithm.sign message = .ok signature) : algorithm.CanSign := by
  intro message'
  obtain ⟨signer, signs, -⟩ := sign_eq_ok_iff.1 signed
  exact ⟨_, sign_eq_ok_iff.2 ⟨signer, signs, rfl⟩⟩

/-- A resolver gives algorithms the names of their keys. -/
def NamesKeys (resolve : Resolver) : Prop :=
  ∀ key algorithm, resolve key = .ok algorithm → algorithm.keyId = SigningKey.keyId key

theorem namesKeys_edDsaOf : NamesKeys edDsaOf := by
  intro key algorithm resolved
  unfold edDsaOf at resolved
  split at resolved
  · simp at resolved
  split at resolved
  · simp at resolved
  · rw [← Except.ok.inj resolved, keyId_edDsa]

end KeyAlgorithm

/-! ## Exchanges -/

/-- What a renewal goes by: the key that the token names and the algorithm that checks it, what the
    token says, the key that is drawn and the algorithm that signs the successor, and when that
    expires. -/
structure Exchange where
  named : SigningKey
  checker : KeyAlgorithm
  claims : Claims
  userId : Uuid
  tokenId : Uuid
  drawn : SigningKey
  signer : KeyAlgorithm
  expiresAt : Instant

namespace Exchange

/-- An exchange is possible: the token is good, and there can be a successor. -/
structure Admitted (x : Exchange) (flow : RefreshFlow) (w : World) (m : Moment) (token : String) :
    Prop where
  /-- The token names a key of the pool, retired or not. -/
  names : ∃ decoded text keyId, TokenCodec.decode token = .ok decoded ∧ decoded.keyId = some text
    ∧ Uuid.parse text = .ok keyId ∧ w.signing.read? keyId = some x.named
  checks : flow.resolve x.named = .ok x.checker
  verified : flow.codec.verify x.checker token m.now m.now.seconds = .ok x.claims
  owner : ∃ text, x.claims.subject = some text ∧ Uuid.parse text = .ok x.userId
  record : Uuid.parse x.claims.tokenId = .ok x.tokenId
  /-- The ledger has the record of the token, as a valid one of the same user. -/
  valid : ∃ r, w.ledger.find? x.tokenId = some r ∧ r.userId = x.userId ∧ r.isValid = true
  /-- The key that is drawn is a usable one of the window. -/
  drawn : KeyWindow.pick? (w.signing.recentUsable flow.window.size) m.draw = some x.drawn
  signs : flow.resolve x.drawn = .ok x.signer
  canSign : x.signer.CanSign
  expires : m.now.add? flow.codec.span = some x.expiresAt
  inserts : w.ledger.failInserts = false
  unused : w.ledger.find? m.freshId = none

/-- What the successor says. -/
def successor (x : Exchange) (flow : RefreshFlow) (m : Moment) : Claims :=
  ⟨flow.codec.issuer, flow.codec.audience, some x.userId.toText, m.now.seconds,
    x.expiresAt.seconds, m.freshId.toText, Claims.stripReserved x.claims.custom⟩

/-- The successor's record. -/
def added (x : Exchange) (m : Moment) : LedgerRecord :=
  ⟨m.freshId, x.userId, true, x.expiresAt, m.now⟩

/-- What comes of an exchange: the token that is answered, and the world that is left. -/
structure Outcome (x : Exchange) (flow : RefreshFlow) (w : World) (m : Moment)
    (issued : IssuedToken) (after : World) : Prop where
  userId : issued.userId = x.userId
  tokenId : issued.tokenId = m.freshId
  keyId : issued.keyId = x.signer.keyId
  expiresAt : issued.expiresAt = x.expiresAt
  written : Compact.write x.signer (x.successor flow m) = .ok issued.token
  /-- The successor is read as it was written, if there are no doubles among its claims. -/
  reads : Json.NoDoublesIn x.claims.custom → Instant.inRange m.now.seconds = true →
    TokenCodec.decode issued.token = .ok ⟨some x.signer.keyId, x.successor flow m⟩
  /-- The record of the token became invalid, and there is one more. -/
  found : ∀ id, after.ledger.find? id = if id = m.freshId then some (x.added m)
    else if id = x.tokenId then (w.ledger.find? id).map LedgerRecord.invalidated
    else w.ledger.find? id
  ids : after.ledger.ids = w.ledger.ids ++ [m.freshId]
  rest : after = { w with ledger := after.ledger }
  inserts : after.ledger.failInserts = w.ledger.failInserts

variable {x : Exchange} {flow : RefreshFlow} {w after : World} {m : Moment} {token : String}
  {draw : Draw} {issued : IssuedToken}

/-- What a token presents that can be exchanged. -/
theorem Admitted.presented (h : x.Admitted flow w m token) :
    flow.presented w m.now token = .ok ⟨x.claims, x.userId, x.tokenId⟩ := by
  obtain ⟨decoded, text, keyId, read, named, parsed, found⟩ := h.names
  refine RefreshFlow.presented_eq_ok_iff.2
    ⟨text, keyId, TokenCodec.keyNamed_eq_ok_iff.2 ⟨decoded, read, named, parsed⟩, ?_, h.valid⟩
  exact RefreshFlow.presentedUnder_eq_ok_iff.2 ⟨x.named, x.checker, found, h.checks, h.verified,
    Claims.userId_eq_ok_iff.2 h.owner, Claims.recordId_eq_ok_iff.2 h.record⟩

/-- Its successor can be signed. -/
theorem Admitted.exists_issue (h : x.Admitted flow w m token) :
    ∃ issued, flow.codec.issue x.signer m.freshId x.userId x.claims.custom m.now = .ok issued :=
  TokenCodec.exists_issue h.canSign _ _ _ (Option.isSome_of_eq_some h.expires)

/-- The renewal runs through. -/
theorem Admitted.run_eq (h : x.Admitted flow w m token)
    (issues : flow.codec.issue x.signer m.freshId x.userId x.claims.custom m.now = .ok issued)
    (draw : Draw) :
    ∃ ledger, w.ledger.rotate x.tokenId (flow.newRecord m x.userId) = .ok ledger
      ∧ (flow.renew m token).run.run (World.answer draw) w
        = (.ok issued, { w with ledger := ledger }) := by
  have signed : flow.signed w m (flow.newRecord m x.userId) x.claims.custom = .ok issued :=
    RefreshFlow.signedUnder_eq_ok_iff.2 ⟨x.drawn, x.signer, h.drawn, h.signs, issues⟩
  have valid : w.ledger.hasValid x.tokenId = true :=
    Ledger.hasValid_eq_true_iff.2 (h.valid.imp fun r ⟨found, _, valid⟩ => ⟨found, valid⟩)
  have fresh : w.ledger.contains (flow.newRecord m x.userId).id = false :=
    Ledger.contains_eq_false_iff.2 h.unused
  have rotated := Ledger.rotate_eq_ok_iff.2 ⟨valid, h.inserts, fresh, rfl⟩
  exact ⟨_, rotated,
    RefreshFlow.run_renew_eq_ok_iff.2 ⟨_, h.presented, signed, _, rotated, rfl⟩⟩

/-- A renewal that succeeds went by an exchange that was possible. -/
theorem exists_admitted
    (ran : (flow.renew m token).run.run (World.answer draw) w = (.ok issued, after)) :
    ∃ x : Exchange, x.Admitted flow w m token := by
  obtain ⟨p, shown, signed, ledger, rotated, -⟩ := RefreshFlow.run_renew_eq_ok_iff.1 ran
  obtain ⟨text, keyId, keyNamed, under, valid⟩ := RefreshFlow.presented_eq_ok_iff.1 shown
  obtain ⟨decoded, read, naming, parsed⟩ := TokenCodec.keyNamed_eq_ok_iff.1 keyNamed
  obtain ⟨named, checker, found, checks, verified, owner, record⟩ :=
    RefreshFlow.presentedUnder_eq_ok_iff.1 under
  obtain ⟨drawn, signer, picked, signs, issues⟩ := RefreshFlow.signedUnder_eq_ok_iff.1 signed
  obtain ⟨expiresAt, written, expires, writes, -⟩ := TokenCodec.issue_eq_ok_iff.1 issues
  obtain ⟨signature, message, -⟩ := Compact.write_eq_ok_iff.1 writes
  obtain ⟨-, inserts, fresh, -⟩ := Ledger.rotate_eq_ok_iff.1 rotated
  exact ⟨⟨named, checker, p.claims, p.userId, p.tokenId, drawn, signer, expiresAt⟩,
    ⟨decoded, text, keyId, read, naming, parsed, found⟩, checks, verified,
    Claims.userId_eq_ok_iff.1 owner, Claims.recordId_eq_ok_iff.1 record, valid, picked, signs,
    KeyAlgorithm.canSign_of_sign message, expires, inserts, Ledger.contains_eq_false_iff.1 fresh⟩

/-- The record that a renewal adds expires when its token does. -/
theorem Admitted.newRecord_eq (h : x.Admitted flow w m token) :
    flow.newRecord m x.userId = x.added m := by
  rw [RefreshFlow.newRecord, LedgerRecord.issue, Instant.addSaturating_of_add? h.expires, added]

/-- The claims of a token that verified, but for doubles, can be written and read again. -/
theorem Admitted.plain (h : x.Admitted flow w m token) (exact : Json.NoDoublesIn x.claims.custom) :
    Claims.Plain x.claims.custom :=
  ⟨Compact.shaped_of_payloadClaims? (TokenCodec.payloadClaims?_of_verify h.verified), exact⟩

/-- What comes of a renewal that runs through. -/
theorem Admitted.outcome (h : x.Admitted flow w m token)
    (ran : (flow.renew m token).run.run (World.answer draw) w = (.ok issued, after)) :
    x.Outcome flow w m issued after := by
  obtain ⟨issued', issues⟩ := h.exists_issue
  obtain ⟨ledger, rotated, runs⟩ := h.run_eq issues draw
  obtain ⟨same, rfl⟩ := Prod.mk.inj (ran.symm.trans runs)
  obtain rfl := Except.ok.inj same
  obtain ⟨expiresAt, token', expires, writes, rfl⟩ := TokenCodec.issue_eq_ok_iff.1 issues
  obtain rfl := Option.some.inj (expires.symm.trans h.expires)
  have found := Ledger.find?_of_rotate rotated
  obtain ⟨-, -, fresh, rfl⟩ := Ledger.rotate_eq_ok_iff.1 rotated
  refine ⟨rfl, rfl, rfl, rfl, writes, fun exact within => ?_, fun id => ?_, ?_, rfl, rfl⟩
  · obtain ⟨parts, reads⟩ := TokenCodec.reads_issued issues (h.plain exact) within
    exact reads.decode_eq
  · rw [found id, h.newRecord_eq]
    rfl
  · rw [Ledger.ids_invalidate, Ledger.ids_push]
    rfl

end Exchange

end Latchkey

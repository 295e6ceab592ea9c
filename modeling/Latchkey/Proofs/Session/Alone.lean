import Latchkey.Proofs.Key.Usable
import Latchkey.Proofs.Ledger.Aging
import Latchkey.Proofs.Session.Steps

set_option autoImplicit false

/-! # Calls that run alone

What each call of the flow answers and leaves behind when nothing comes between its requests, as a
function of the world. -/

namespace Latchkey

namespace RefreshFlow

/-- What a token presents in a world. -/
def presented (flow : RefreshFlow) (w : World) (now : Instant) (token : String) :
    Except Error PresentedToken :=
  (TokenCodec.keyNamed token).bind fun (keyText, keyId) =>
    (flow.presentedUnder now token keyText (w.signing.read? keyId)).bind fun presented =>
      presented.against (w.ledger.find? presented.tokenId)

/-- The signed token of a record in a world. -/
def signed (flow : RefreshFlow) (w : World) (m : Moment) (record : LedgerRecord)
    (custom : Json.Members) : Except Error IssuedToken :=
  flow.signedUnder m record custom (w.signing.recentUsable flow.window.size)

variable {β : Type}

theorem run_verifyPresented_bind (flow : RefreshFlow) (draw : Draw) (w : World) (now : Instant)
    (token : String) (k : Except Error PresentedToken → Program Request Request.Answer β) :
    ((flow.verifyPresented now token).run.bind k).run (World.answer draw) w
      = (k (flow.presented w now token)).run (World.answer draw) w := by
  rw [verifyPresented_bind]
  unfold presented
  rcases TokenCodec.keyNamed token with e | ⟨keyText, keyId⟩
  · rfl
  simp only [Except.bind, Program.run, World.answer, Pool.answer]
  rcases flow.presentedUnder now token keyText (w.signing.read? keyId) with e | p
  · rfl
  rfl

theorem run_signFor_bind (flow : RefreshFlow) (draw : Draw) (w : World) (m : Moment)
    (record : LedgerRecord) (custom : Json.Members)
    (k : Except Error IssuedToken → Program Request Request.Answer β) :
    ((flow.signFor m record custom).run.bind k).run (World.answer draw) w
      = (k (flow.signed w m record custom)).run (World.answer draw) w := by
  rw [signFor_bind]
  rfl

/-! ## Whole calls -/

/-- What a call answers and leaves behind that ends with a write whose success is worth `value`. -/
def committed {α : Type} (w : World) (value : α) : Except Error Ledger → Except Error α × World
  | .ok ledger => (.ok value, { w with ledger := ledger })
  | .error e => (.error e, w)

theorem run_issue_alone (flow : RefreshFlow) (draw : Draw) (w : World) (m : Moment) (userId : Uuid)
    (custom : Json.Members) :
    (flow.issue m userId custom).run.run (World.answer draw) w
      = match flow.signed w m (flow.newRecord m userId) custom with
        | .error e => (.error e, w)
        | .ok issued => committed w issued (w.ledger.create (flow.newRecord m userId)) := by
  rw [run_issue, run_signFor_bind]
  rcases flow.signed w m (flow.newRecord m userId) custom with e | issued
  · rfl
  simp only [Program.run, World.answer, Ledger.answer]
  cases w.ledger.create (flow.newRecord m userId) <;> rfl

theorem run_renew_alone (flow : RefreshFlow) (draw : Draw) (w : World) (m : Moment)
    (token : String) :
    (flow.renew m token).run.run (World.answer draw) w
      = match flow.presented w m.now token with
        | .error e => (.error e, w)
        | .ok p =>
          match flow.signed w m (flow.newRecord m p.userId) p.claims.custom with
          | .error e => (.error e, w)
          | .ok issued =>
            committed w issued (w.ledger.rotate p.tokenId (flow.newRecord m p.userId)) := by
  rw [run_renew, run_verifyPresented_bind]
  rcases flow.presented w m.now token with e | p
  · rfl
  dsimp only
  rw [run_signFor_bind]
  rcases flow.signed w m (flow.newRecord m p.userId) p.claims.custom with e | issued
  · rfl
  simp only [Program.run, World.answer, Ledger.answer]
  cases w.ledger.rotate p.tokenId (flow.newRecord m p.userId) <;> rfl

theorem run_revoke_alone (flow : RefreshFlow) (draw : Draw) (w : World) (now : Instant)
    (token : String) :
    (flow.revoke now token).run.run (World.answer draw) w
      = match flow.presented w now token with
        | .ok p => (.ok (w.ledger.hasValid p.tokenId),
            { w with ledger := w.ledger.invalidate p.tokenId })
        | .error (.verification .revoked) => (.ok false, w)
        | .error e => (.error e, w) := by
  rw [run_revoke, run_verifyPresented_bind]
  rcases flow.presented w now token with e | p
  · split <;> simp_all [Program.run]
  · rfl

/-! ## What it takes -/

variable {flow : RefreshFlow} {w : World} {m : Moment} {now : Instant} {token : String}
  {presentedToken : PresentedToken}

/-- What is left to do for a token that verifies is to check its record. -/
theorem presented_eq {keyText : String} {keyId : Uuid}
    (named : TokenCodec.keyNamed token = .ok (keyText, keyId))
    (shown : flow.presentedUnder now token keyText (w.signing.read? keyId) = .ok presentedToken) :
    flow.presented w now token
      = presentedToken.against (w.ledger.find? presentedToken.tokenId) := by
  simp only [presented, named, Except.bind, shown]

theorem presented_eq_ok_iff :
    flow.presented w now token = .ok presentedToken
      ↔ ∃ keyText keyId, TokenCodec.keyNamed token = .ok (keyText, keyId)
        ∧ flow.presentedUnder now token keyText (w.signing.read? keyId) = .ok presentedToken
        ∧ ∃ r, w.ledger.find? presentedToken.tokenId = some r
          ∧ r.userId = presentedToken.userId ∧ r.isValid = true := by
  unfold presented
  simp only [except_bind_eq_ok_iff, Prod.exists, PresentedToken.against_eq_ok_iff]
  constructor
  · rintro ⟨keyText, keyId, named, p, shown, rfl, record⟩
    exact ⟨keyText, keyId, named, shown, record⟩
  · rintro ⟨keyText, keyId, named, shown, record⟩
    exact ⟨keyText, keyId, named, _, shown, rfl, record⟩

variable {draw : Draw} {after : World} {userId : Uuid} {custom : Json.Members}
  {issued : IssuedToken}

theorem committed_eq_ok_iff {α : Type} {value answered : α} {written : Except Error Ledger} :
    committed w value written = (.ok answered, after)
      ↔ value = answered
        ∧ ∃ ledger, written = .ok ledger ∧ after = { w with ledger := ledger } := by
  cases written with
  | error e => simp [committed]
  | ok ledger => simp [committed, eq_comm]

theorem run_issue_eq_ok_iff :
    (flow.issue m userId custom).run.run (World.answer draw) w = (.ok issued, after)
      ↔ flow.signed w m (flow.newRecord m userId) custom = .ok issued
        ∧ ∃ ledger, w.ledger.create (flow.newRecord m userId) = .ok ledger
          ∧ after = { w with ledger := ledger } := by
  rw [run_issue_alone]
  cases flow.signed w m (flow.newRecord m userId) custom with
  | error e => simp
  | ok signed => simp [committed_eq_ok_iff]

theorem run_renew_eq_ok_iff :
    (flow.renew m token).run.run (World.answer draw) w = (.ok issued, after)
      ↔ ∃ p, flow.presented w m.now token = .ok p
        ∧ flow.signed w m (flow.newRecord m p.userId) p.claims.custom = .ok issued
        ∧ ∃ ledger, w.ledger.rotate p.tokenId (flow.newRecord m p.userId) = .ok ledger
          ∧ after = { w with ledger := ledger } := by
  rw [run_renew_alone]
  cases flow.presented w m.now token with
  | error e => simp
  | ok p =>
    simp only [Except.ok.injEq, exists_eq_left']
    cases flow.signed w m (flow.newRecord m p.userId) p.claims.custom with
    | error e => simp
    | ok signed => simp [committed_eq_ok_iff]

/-! ## Renewals that succeed -/

/-- What it takes to renew a token: it is good, its record is valid, there is a usable key, all of
    these can sign the successor, and the successor's identifier is free. -/
structure CanRenew (flow : RefreshFlow) (w : World) (token : String) (m : Moment)
    (presented : PresentedToken) : Prop where
  presents : flow.presented w m.now token = .ok presented
  usable : ∃ key ∈ w.signing.keys, key.isUsable = true
  signs : ∀ key ∈ w.signing.keys, key.isUsable = true → ∃ algorithm issued,
    flow.resolve key = .ok algorithm
      ∧ flow.codec.issue algorithm m.freshId presented.userId presented.claims.custom m.now
        = .ok issued
  unused : w.ledger.contains m.freshId = false

theorem CanRenew.exists_signed (can : flow.CanRenew w token m presentedToken)
    (window : 0 < flow.window.size) :
    ∃ issued, flow.signed w m (flow.newRecord m presentedToken.userId) presentedToken.claims.custom
      = .ok issued := by
  obtain ⟨key, mem, fit, picked⟩ := KeyWindow.exists_pick? window can.usable m.draw
  obtain ⟨algorithm, issued, resolved, issues⟩ := can.signs key mem fit
  exact ⟨issued, signedUnder_eq_ok_iff.2 ⟨key, algorithm, picked, resolved, issues⟩⟩

/-- A renewal that can succeed does when it runs alone. -/
theorem CanRenew.succeeds (can : flow.CanRenew w token m presentedToken)
    (window : 0 < flow.window.size) (inserts : w.ledger.failInserts = false) (draw : Draw) :
    ∃ issued, ((flow.renew m token).run.run (World.answer draw) w).1 = .ok issued := by
  obtain ⟨issued, signed⟩ := can.exists_signed window
  obtain ⟨_, _, -, -, r, found, -, valid⟩ := presented_eq_ok_iff.1 can.presents
  have fresh : w.ledger.contains (flow.newRecord m presentedToken.userId).id = false := can.unused
  have rotated := Ledger.rotate_eq_ok_iff.2
    ⟨Ledger.hasValid_eq_true_iff.2 ⟨r, found, valid⟩, inserts, fresh, rfl⟩
  exact ⟨issued, congrArg Prod.fst
    (run_renew_eq_ok_iff.2 ⟨presentedToken, can.presents, signed, _, rotated, rfl⟩)⟩

end RefreshFlow

end Latchkey

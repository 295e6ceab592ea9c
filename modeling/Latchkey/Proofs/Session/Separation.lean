import Latchkey.Proofs.Ledger.Views
import Latchkey.Proofs.Session.Presented
import Latchkey.Proofs.Session.Signing

set_option autoImplicit false

/-! # Users do not influence each other

A call of the flow acts for one user: the one that it is given, or the one for whom its token
verifies. It adds and changes records of that user alone (`FlowCall.confined_alone`), and what it
answers and does with them depends on no more of the ledger than that user can tell apart
(`FlowCall.alone_of_looksAlike`). So two calls for different users may come in either order
(`FlowCall.users_do_not_interfere`). -/

namespace Latchkey

/-! ## The user of a call -/

/-- The user for whom a token verifies under the keys of a pool, if it does and names a record. -/
def RefreshFlow.verifiedUser? (flow : RefreshFlow) (pool : Pool SigningMaterial) (now : Instant)
    (token : String) : Option Uuid :=
  let presented := (TokenCodec.keyNamed token).bind fun (keyText, keyId) =>
    flow.presentedUnder now token keyText (pool.read? keyId)
  presented.toOption.map (·.userId)

namespace FlowCall

/-- The user for whom a call acts. -/
def user? (flow : RefreshFlow) (pool : Pool SigningMaterial) : FlowCall → Option Uuid
  | .issue _ userId _ | .revokeAll userId => some userId
  | .renew m token => flow.verifiedUser? pool m.now token
  | .revoke now token => flow.verifiedUser? pool now token

/-- The identifiers at which a call looks, whoever they belong to: the one that is drawn for its
    record, and the one that its token names. -/
def Touches (call : FlowCall) (id : Uuid) : Prop :=
  call.freshId? = some id ∨ ∃ token, call.token? = some token ∧ Compact.recordOf? token = some id

/-- What a call answers, and the world that it leaves, when it runs alone. -/
def alone (flow : RefreshFlow) (draw : Draw) (call : FlowCall) (w : World) :
    Except Error call.Value × World :=
  (call.operation flow).run.run (World.answer draw) w

end FlowCall

namespace RefreshFlow

variable {flow : RefreshFlow} {w : World} {l' : Ledger} {now : Instant} {m : Moment}
  {token : String} {presentedToken : PresentedToken} {user? fresh? : Option Uuid}
  {touches : Uuid → Prop}

theorem verifiedUser?_eq {keyText : String} {keyId : Uuid} {pool : Pool SigningMaterial}
    (named : TokenCodec.keyNamed token = .ok (keyText, keyId))
    (shown : flow.presentedUnder now token keyText (pool.read? keyId) = .ok presentedToken) :
    flow.verifiedUser? pool now token = some presentedToken.userId := by
  simp only [verifiedUser?, named, Except.bind, shown]
  rfl

/-- A token that presents anything verifies for the user of its record. -/
theorem verified_of_presented (presents : flow.presented w now token = .ok presentedToken) :
    flow.verifiedUser? w.signing now token = some presentedToken.userId
      ∧ ∃ r, w.ledger.find? presentedToken.tokenId = some r ∧ r.userId = presentedToken.userId := by
  obtain ⟨keyText, keyId, named, shown, r, found, owns, -⟩ := presented_eq_ok_iff.1 presents
  exact ⟨verifiedUser?_eq named shown, r, found, owns⟩

/-- A token presents the same over two ledgers that look alike to the user for whom it verifies. -/
theorem presented_of_looksAlike
    (alike : w.ledger.LooksAlike (flow.verifiedUser? w.signing now token) touches l')
    (names : ∀ id, Compact.recordOf? token = some id → touches id) :
    flow.presented { w with ledger := l' } now token = flow.presented w now token := by
  cases named : TokenCodec.keyNamed token with
  | error e => simp only [presented, named, Except.bind]
  | ok key =>
    obtain ⟨keyText, keyId⟩ := key
    cases shown : flow.presentedUnder now token keyText (w.signing.read? keyId) with
    | error e => simp only [presented, named, shown, Except.bind]
    | ok p =>
      have user := verifiedUser?_eq named shown
      have owners := alike.owners p.tokenId (names _ (names_of_presentedUnder shown).1)
      rw [presented_eq named shown, presented_eq (w := { w with ledger := l' }) named shown]
      unfold Ledger.owner? at owners
      cases found : w.ledger.find? p.tokenId with
      | none =>
        rw [found, Option.map_none, Option.map_eq_none_iff] at owners
        rw [owners]
      | some r =>
        by_cases owns : r.userId = p.userId
        · rw [alike.own.find? found (by rw [user, owns])]
        · -- The record is another user's in both ledgers, and it does not matter what it is.
          rw [found, Option.map_some] at owners
          obtain ⟨r', found', same⟩ := Option.map_eq_some_iff.1 owners
          rw [found', PresentedToken.against, PresentedToken.against, if_pos owns,
            if_pos (same ▸ owns)]

/-! ## The write at the end -/

theorem confined_committed {α : Type} {value : α} {written : Except Error Ledger}
    (confined : ∀ l, written = .ok l → w.ledger.Confined user? fresh? l) :
    ∃ l, (committed w value written).2 = { w with ledger := l }
      ∧ w.ledger.Confined user? fresh? l := by
  cases written with
  | error e => exact ⟨w.ledger, rfl, .refl user? fresh? _⟩
  | ok l => exact ⟨l, rfl, confined l rfl⟩

theorem committed_of_sameWrite {α : Type} {value : α} {written written' : Except Error Ledger}
    (same : w.ledger.SameFor user? l') (write : Ledger.SameWrite user? written written') :
    (committed { w with ledger := l' } value written').1 = (committed w value written).1
      ∧ (committed w value written).2.ledger.SameFor user?
        (committed { w with ledger := l' } value written').2.ledger := by
  cases write with
  | error e => exact ⟨rfl, same⟩
  | ok same' => exact ⟨rfl, same'⟩

end RefreshFlow

namespace FlowCall

variable {flow : RefreshFlow} {w : World} {l' : Ledger}

theorem alone_revokeAll (flow : RefreshFlow) (draw : Draw) (userId : Uuid) (w : World) :
    alone flow draw (.revokeAll userId) w
      = (.ok (w.ledger.validOf userId), { w with ledger := w.ledger.invalidateAll userId }) := rfl

/-! ## What a call changes -/

/-- A call changes nothing but the ledger, and in there only records of its user. -/
theorem confined_alone (flow : RefreshFlow) (draw : Draw) (call : FlowCall) (w : World) :
    ∃ l, (call.alone flow draw w).2 = { w with ledger := l }
      ∧ w.ledger.Confined (call.user? flow w.signing) call.freshId? l := by
  have unchanged : ∃ l, w = { w with ledger := l }
      ∧ w.ledger.Confined (call.user? flow w.signing) call.freshId? l :=
    ⟨w.ledger, rfl, .refl _ _ _⟩
  cases call with
  | issue m userId custom =>
    rw [alone, operation, RefreshFlow.run_issue_alone]
    split
    · exact unchanged
    · refine RefreshFlow.confined_committed ?_
      intro l created
      exact Ledger.confined_create created
  | renew m token =>
    rw [alone, operation, RefreshFlow.run_renew_alone]
    split
    · exact unchanged
    · rename_i p presents
      obtain ⟨user, r, found, owns⟩ := RefreshFlow.verified_of_presented presents
      split
      · exact unchanged
      · refine RefreshFlow.confined_committed ?_
        intro l rotated
        rw [user?, user]
        exact Ledger.confined_rotate rotated found owns
  | revoke now token =>
    rw [alone, operation, RefreshFlow.run_revoke_alone]
    split
    · rename_i p presents
      obtain ⟨user, r, found, owns⟩ := RefreshFlow.verified_of_presented presents
      refine ⟨_, rfl, ?_⟩
      rw [user?, user, ← owns]
      exact Ledger.confined_invalidate found
    · exact unchanged
    · exact unchanged
  | revokeAll userId =>
    rw [alone_revokeAll]
    exact ⟨_, rfl, Ledger.confined_invalidateAll _ userId⟩

/-! ## What a call depends on -/

/-- Over a ledger that looks alike to its user, a call answers the same and makes the same of the
    user's records. -/
theorem alone_of_looksAlike (draw : Draw) (call : FlowCall)
    (alike : w.ledger.LooksAlike (call.user? flow w.signing) call.Touches l') :
    (call.alone flow draw { w with ledger := l' }).1 = (call.alone flow draw w).1
      ∧ (call.alone flow draw w).2.ledger.SameFor (call.user? flow w.signing)
        (call.alone flow draw { w with ledger := l' }).2.ledger := by
  cases call with
  | issue m userId custom =>
    simp only [alone, operation, RefreshFlow.run_issue_alone]
    have signs : flow.signed { w with ledger := l' } m (flow.newRecord m userId) custom
        = flow.signed w m (flow.newRecord m userId) custom := rfl
    rw [signs]
    cases flow.signed w m (flow.newRecord m userId) custom with
    | error e => exact ⟨rfl, alike.own⟩
    | ok issued =>
      exact RefreshFlow.committed_of_sameWrite alike.own (alike.create (.inl rfl))
  | renew m token =>
    have presents := RefreshFlow.presented_of_looksAlike alike
      fun id names => .inr ⟨token, rfl, names⟩
    simp only [alone, operation, RefreshFlow.run_renew_alone]
    rw [presents]
    cases shown : flow.presented w m.now token with
    | error e => exact ⟨rfl, alike.own⟩
    | ok p =>
      obtain ⟨user, r, found, owns⟩ := RefreshFlow.verified_of_presented shown
      dsimp only
      have signs : flow.signed { w with ledger := l' } m (flow.newRecord m p.userId) p.claims.custom
          = flow.signed w m (flow.newRecord m p.userId) p.claims.custom := rfl
      rw [signs]
      cases flow.signed w m (flow.newRecord m p.userId) p.claims.custom with
      | error e => exact ⟨rfl, alike.own⟩
      | ok issued =>
        refine RefreshFlow.committed_of_sameWrite alike.own
          (alike.rotate (.inl rfl) found ?_)
        rw [user?, user, owns]
  | revoke now token =>
    have presents := RefreshFlow.presented_of_looksAlike alike
      fun id names => .inr ⟨token, rfl, names⟩
    simp only [alone, operation, RefreshFlow.run_revoke_alone]
    rw [presents]
    split
    · rename_i p shown
      obtain ⟨user, r, found, owns⟩ := RefreshFlow.verified_of_presented shown
      have found' : l'.find? p.tokenId = some r :=
        alike.own.find? found (by rw [user?, user, owns])
      refine ⟨?_, alike.own.invalidateWhere _⟩
      show Except.ok (l'.hasValid p.tokenId) = .ok (w.ledger.hasValid p.tokenId)
      rw [Ledger.hasValid_of_find? found, Ledger.hasValid_of_find? found']
    · exact ⟨rfl, alike.own⟩
    · exact ⟨rfl, alike.own⟩
  | revokeAll userId =>
    rw [alone_revokeAll, alone_revokeAll]
    exact ⟨congrArg Except.ok alike.own.validOf, alike.own.invalidateWhere _⟩

/-! ## Two calls in either order -/

/-- Two calls for different users, each under a fresh identifier that the other does not touch, may
    come in either order: each answers the same in both, both orders leave the same ledger and
    nothing else changed, and neither call changes a record of a user for whom it does not act. -/
theorem users_do_not_interfere (flow : RefreshFlow) (draw : Draw) (w : World)
    (call call' : FlowCall)
    (apart : ∀ userId, call.user? flow w.signing = some userId →
      call'.user? flow w.signing ≠ some userId)
    (fresh : ∀ id, call.freshId? = some id → ¬ call'.Touches id)
    (fresh' : ∀ id, call'.freshId? = some id → ¬ call.Touches id) :
    let first := call.alone flow draw w
    let second := call'.alone flow draw w
    let thenSecond := call'.alone flow draw first.2
    let thenFirst := call.alone flow draw second.2
    (thenFirst.1 = first.1 ∧ thenSecond.1 = second.1)
      ∧ (∃ l l', thenSecond.2 = { w with ledger := l } ∧ thenFirst.2 = { w with ledger := l' }
        ∧ l.Same l')
      ∧ (w.ledger.SparesOthers (call.user? flow w.signing) first.2.ledger
        ∧ second.2.ledger.SparesOthers (call.user? flow w.signing) thenFirst.2.ledger)
      ∧ w.ledger.SparesOthers (call'.user? flow w.signing) second.2.ledger
      ∧ first.2.ledger.SparesOthers (call'.user? flow w.signing) thenSecond.2.ledger := by
  intro first second thenSecond thenFirst
  have apart' : ∀ userId, call'.user? flow w.signing = some userId →
      call.user? flow w.signing ≠ some userId := by
    intro userId theirs mine
    exact apart userId mine theirs
  obtain ⟨l₁, left₁, confined₁⟩ := confined_alone flow draw call w
  obtain ⟨l₂, left₂, confined₂⟩ := confined_alone flow draw call' w
  obtain ⟨l₁₂, left₁₂, confined₁₂⟩ := confined_alone flow draw call' { w with ledger := l₁ }
  obtain ⟨l₂₁, left₂₁, confined₂₁⟩ := confined_alone flow draw call { w with ledger := l₂ }
  obtain ⟨answers₁, own₁⟩ := alone_of_looksAlike draw call (confined₂.looksAlike apart fresh')
  obtain ⟨answers₂, own₂⟩ := alone_of_looksAlike draw call' (confined₁.looksAlike apart' fresh)
  rw [left₁, left₂₁] at own₁
  rw [left₂, left₁₂] at own₂
  simp only [first, second, thenSecond, thenFirst, left₁, left₂, left₁₂, left₂₁]
  exact ⟨⟨answers₁, answers₂⟩,
    ⟨l₁₂, l₂₁, rfl, rfl,
      Ledger.same_of_confined apart confined₁ confined₂ confined₁₂ confined₂₁ own₁ own₂⟩,
    ⟨confined₁.others, confined₂₁.others⟩, confined₂.others, confined₁₂.others⟩

/-- A token of one user names a record of another, who logs out everywhere. It is refused as not
    owning the record whether that comes first or not, and the logout finds one valid record. -/
theorem foreign_token_is_refused_in_either_order :
    ∃ issued, (RefreshFlow.sharing []).codec.issue (.hs256 Uuid.zero.toText []) (.ofNat 1)
        (.ofNat 2) [] ⟨0, 0⟩ = .ok issued ∧
      let record : LedgerRecord := ⟨.ofNat 1, .ofNat 3, true, ⟨3600, 0⟩, ⟨0, 0⟩⟩
      let w : World := .withKey .zero ⟨[record], List.nodup_singleton _, false⟩
      let foreign : FlowCall := .renew ⟨⟨1, 0⟩, .ofNat 4, 0⟩ issued.token
      let logout : FlowCall := .revokeAll (.ofNat 3)
      let refused : Except Error IssuedToken :=
        .error (.invalidClaim "sub" "does not own the token")
      let alone (call : FlowCall) := call.alone (.sharing []) .none
      foreign.user? (.sharing []) w.signing = some (.ofNat 2) ∧ foreign.Touches (.ofNat 1)
        ∧ (alone foreign w).1 = refused ∧ (alone foreign (alone logout w).2).1 = refused
        ∧ (alone logout (alone foreign w).2).1 = .ok (1 : Nat) := by
  obtain ⟨issued, issues, -, good⟩ := RefreshFlow.exists_first ⟨Claims.shaped_nil, trivial⟩
  refine ⟨issued, issues, ?_⟩
  intro record w foreign logout refused alone
  obtain ⟨names, shown, presents⟩ := good ⟨1, 0⟩ (by decide) w.ledger
  have user : foreign.user? (.sharing []) w.signing = some (.ofNat 2) :=
    RefreshFlow.verifiedUser?_eq names shown
  have presents : (RefreshFlow.sharing []).presented w ⟨1, 0⟩ issued.token
      = .error (.invalidClaim "sub" "does not own the token") := presents
  have first : (alone foreign w).1 = refused := by
    simp only [alone, foreign, FlowCall.alone, operation, RefreshFlow.run_renew_alone, presents]
    rfl
  have apart : ∀ userId, foreign.user? (.sharing []) w.signing = some userId →
      logout.user? (.sharing []) w.signing ≠ some userId := by
    intro userId theirs other
    rw [user] at theirs
    cases theirs.trans other.symm
  have fresh : ∀ id, foreign.freshId? = some id → ¬ logout.Touches id := by
    rintro id - (drawn | ⟨token, presented, -⟩)
    · cases drawn
    · cases presented
  have noFresh : ∀ id, logout.freshId? = some id → ¬ foreign.Touches id := by
    intro id drawn
    cases drawn
  obtain ⟨⟨foreignAgain, logoutAgain⟩, -⟩ :=
    users_do_not_interfere (.sharing []) .none w foreign logout apart fresh noFresh
  exact ⟨user, .inr ⟨_, rfl, (RefreshFlow.names_of_presentedUnder shown).1⟩, first,
    foreignAgain.trans first, logoutAgain⟩

end FlowCall

end Latchkey

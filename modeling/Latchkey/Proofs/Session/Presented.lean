import Latchkey.Proofs.Key.Keeping
import Latchkey.Proofs.Session.Alone
import Latchkey.Proofs.Token.Issued

set_option autoImplicit false

/-! # Issued tokens are good

As long as the pool has the key that signed a token, the ledger has its valid record and it has not
expired, the token presents what it was issued with (`RefreshFlow.presented_of_issue`). Of the
algorithm this takes that it accepts what it signs. -/

namespace Latchkey

/-! ## Algorithms -/

namespace KeyAlgorithm

variable {keyId : String} {signKey checkKey : Bytes}

/-- An algorithm accepts what it signs in a token. -/
def AcceptsOwn (algorithm : KeyAlgorithm) (token : String) : Prop :=
  ∀ parts, Compact.parts? token = some parts →
    let message := Bytes.ofText (Compact.signedText parts.header parts.payload)
    algorithm.sign message = .ok parts.signature →
      algorithm.accepts message parts.signature = .ok true

theorem acceptsOwn_of_hs256 (keyId : String) (secret : Bytes) (token : String) :
    AcceptsOwn (hs256 keyId secret) token := by
  intro parts _ message signed
  obtain same := Except.ok.inj signed
  exact congrArg Except.ok (decide_eq_true same.symm)

end KeyAlgorithm

/-! ## The key that a token names -/

namespace TokenCodec

variable {codec : TokenCodec} {algorithm : KeyAlgorithm} {id : Uuid} {custom : Json.Members}
  {now : Instant} {issued : IssuedToken} {parts : Compact.Parts}

/-- A token names the key that signed it. -/
theorem Reads.keyNamed_eq (reads : Reads codec algorithm custom now issued parts)
    (named : algorithm.keyId = id.toText) : keyNamed issued.token = .ok (id.toText, id) := by
  simp only [keyNamed, reads.decode_eq, Except.bind, named, identifier_toText, Except.map]

end TokenCodec

/-! ## Presenting a token -/

namespace RefreshFlow

variable {flow : RefreshFlow} {w : World} {algorithm : KeyAlgorithm} {key : SigningKey}
  {tokenId userId : Uuid} {custom : Json.Members} {now later : Instant} {issued : IssuedToken}

/-- An issued token names the key that signed it, and under that key it presents what it was issued
    with, whatever the ledger says. -/
theorem presentedUnder_of_issue {pool : Pool SigningMaterial}
    (issues : flow.codec.issue algorithm tokenId userId custom now = .ok issued)
    (plain : Claims.Plain custom) (since : 0 ≤ now.seconds) (mem : key ∈ pool.keys)
    (resolved : flow.resolve key = .ok algorithm) (named : algorithm.keyId = key.id.toText)
    (accepts : algorithm.AcceptsOwn issued.token)
    (fresh : later.seconds < issued.expiresAt.seconds) :
    TokenCodec.keyNamed issued.token = .ok (key.id.toText, key.id)
      ∧ flow.presentedUnder later issued.token key.id.toText (pool.read? key.id)
        = .ok ⟨flow.codec.claimsOf custom now issued, userId, tokenId⟩ := by
  obtain ⟨within, positive⟩ := TokenCodec.inRange_of_issue issues since
  obtain ⟨parts, reads⟩ := TokenCodec.reads_issued issues plain within
  have verified := reads.verify_eq (accepts parts reads.split reads.signed) fresh
    (Int.le_of_lt fresh) (Int.le_of_lt positive)
  have ids := TokenCodec.ids_of_issue issues
  refine ⟨reads.keyNamed_eq named, ?_⟩
  refine presentedUnder_eq_ok_iff.2 ⟨key, _, Pool.read?_of_mem mem, resolved, verified, ?_, ?_⟩
  · rw [TokenCodec.userId_claimsOf, ids.2]
  · rw [TokenCodec.recordId_claimsOf, ids.1]

/-- An issued token presents what it was issued with. -/
theorem presented_of_issue {r : LedgerRecord}
    (issues : flow.codec.issue algorithm tokenId userId custom now = .ok issued)
    (plain : Claims.Plain custom) (since : 0 ≤ now.seconds) (mem : key ∈ w.signing.keys)
    (resolved : flow.resolve key = .ok algorithm) (named : algorithm.keyId = key.id.toText)
    (accepts : algorithm.AcceptsOwn issued.token) (found : w.ledger.find? tokenId = some r)
    (owner : r.userId = userId) (valid : r.isValid = true)
    (fresh : later.seconds < issued.expiresAt.seconds) :
    flow.presented w later issued.token
      = .ok ⟨flow.codec.claimsOf custom now issued, userId, tokenId⟩ := by
  obtain ⟨names, shown⟩ :=
    presentedUnder_of_issue issues plain since mem resolved named accepts fresh
  exact presented_eq_ok_iff.2 ⟨_, _, names, shown, r, found, owner, valid⟩

end RefreshFlow

/-! ## A small world -/

/-- A flow that signs with one secret, whatever the key. -/
def RefreshFlow.sharing (secret : Bytes) : RefreshFlow :=
  ⟨⟨"keystone", "keystone-api", 3600, by decide, by decide⟩, .default,
    fun key => .ok (.hs256 (SigningKey.keyId key) secret)⟩

/-- A world with one usable signing key. -/
def World.withKey (id : Uuid) (ledger : Ledger) : World :=
  ⟨⟨0, 0⟩, ⟨[⟨id, ⟨"", ""⟩, ⟨0, 0⟩, none⟩], List.pairwise_singleton _ _⟩, .empty, ledger⟩

/-- A draw where nothing needs to be drawn. -/
def Draw.none : Draw :=
  ⟨.zero, [], fun _ => .error (.keyGeneration "nothing drawn")⟩

/-- The ledger of a single token. -/
def Ledger.oneToken : Ledger :=
  Ledger.empty.push ((RefreshFlow.sharing []).newRecord ⟨⟨0, 0⟩, .ofNat 1, 0⟩ (.ofNat 2)) rfl

namespace RefreshFlow

/-- A flow that shares a secret signs with every key. -/
theorem exists_issue_sharing (secret : Bytes) (key : SigningKey) (tokenId userId : Uuid)
    (custom : Json.Members) {now : Instant}
    (inTime : (now.add? (sharing secret).codec.span).isSome = true) :
    ∃ algorithm issued, (sharing secret).resolve key = .ok algorithm
      ∧ (sharing secret).codec.issue algorithm tokenId userId custom now = .ok issued := by
  obtain ⟨issued, issues⟩ : ∃ issued, (sharing secret).codec.issue
      (.hs256 (SigningKey.keyId key) secret) tokenId userId custom now = .ok issued :=
    TokenCodec.exists_issue (fun _ => ⟨_, rfl⟩) _ _ _ inTime
  exact ⟨_, issued, rfl, issues⟩

/-- The token of a single token's ledger. For an hour it names the key of its world and presents its
    user and its record, whatever has become of the ledger. -/
theorem exists_first {custom : Json.Members} (plain : Claims.Plain custom) :
    ∃ first, (sharing []).codec.issue (.hs256 Uuid.zero.toText []) (.ofNat 1) (.ofNat 2) custom
        ⟨0, 0⟩ = .ok first
      ∧ first.expiresAt = ⟨3600, 0⟩
      ∧ ∀ later : Instant, later.seconds < 3600 → ∀ ledger,
        let w := World.withKey .zero ledger
        let shown : PresentedToken :=
          ⟨(sharing []).codec.claimsOf custom ⟨0, 0⟩ first, .ofNat 2, .ofNat 1⟩
        TokenCodec.keyNamed first.token = .ok (Uuid.zero.toText, .zero)
          ∧ (sharing []).presentedUnder later first.token Uuid.zero.toText (w.signing.read? .zero)
            = .ok shown
          ∧ (sharing []).presented w later first.token = shown.against (ledger.find? (.ofNat 1)) := by
  obtain ⟨first, issues⟩ : ∃ first, (sharing []).codec.issue (.hs256 Uuid.zero.toText [])
      (.ofNat 1) (.ofNat 2) custom ⟨0, 0⟩ = .ok first :=
    TokenCodec.exists_issue (fun _ => ⟨_, rfl⟩) _ _ _ (by decide)
  have expiry : first.expiresAt = ⟨3600, 0⟩ := TokenCodec.expiresAt_of_issue issues (by decide)
  refine ⟨first, issues, expiry, ?_⟩
  intro later fresh ledger w shown
  let key : SigningKey := ⟨.zero, ⟨"", ""⟩, ⟨0, 0⟩, none⟩
  obtain ⟨names, shows⟩ : TokenCodec.keyNamed first.token = .ok (key.id.toText, key.id)
      ∧ (sharing []).presentedUnder later first.token key.id.toText (w.signing.read? key.id)
        = .ok shown :=
    presentedUnder_of_issue issues plain (Int.le_refl 0) (.head _) rfl rfl
      (KeyAlgorithm.acceptsOwn_of_hs256 _ _ _) (by rw [expiry]; exact fresh)
  exact ⟨names, shows, presented_eq names shows⟩

variable {custom : Json.Members} {first : IssuedToken}

/-- The call that issues it makes that ledger. -/
theorem run_issue_first (issues : (sharing []).codec.issue (.hs256 Uuid.zero.toText []) (.ofNat 1)
      (.ofNat 2) custom ⟨0, 0⟩ = .ok first) :
    ((sharing []).issue ⟨⟨0, 0⟩, .ofNat 1, 0⟩ (.ofNat 2) custom).run.run (World.answer .none)
      (.withKey .zero .empty) = (.ok first, .withKey .zero .oneToken) :=
  run_issue_eq_ok_iff.2
    ⟨signedUnder_eq_ok_iff.2 ⟨_, _, rfl, rfl, issues⟩, .oneToken, rfl, rfl⟩

end RefreshFlow

end Latchkey

import Latchkey.Proofs.Session.Presented
import Latchkey.Proofs.Session.Service

set_option autoImplicit false

/-! # Sessions go on

A token that a service has issued can be renewed as long as its record is valid, it has not expired
and some signing key is usable, whatever has become of the key that signed it
(`Service.renews_iff`). For the token's own key is still in the pool, retired or not, and the token
reads back as what it was issued with. -/

namespace Latchkey

/-! ## Tokens that a seed has signed -/

/-- Verification accepts what the seeds sign in a token. -/
def Ed25519.Accepts (seeds : Bytes → Prop) (token : String) : Prop :=
  ∀ seed parts, seeds seed → Compact.parts? token = some parts →
    let message := Bytes.ofText (Compact.signedText parts.header parts.payload)
    verify (publicKey seed) message (sign seed message) = true

variable {flow : RefreshFlow} {seeds : Bytes → Prop} {w : World} {x : Issuance} {now : Instant}
  {m : Moment}

theorem KeyAlgorithm.acceptsOwn_ofSeed {seed : Bytes} {token : String} (id : Uuid)
    (length : seed.length = 32) (drawn : seeds seed) (accepts : Ed25519.Accepts seeds token) :
    (ofSeed id seed).AcceptsOwn token := by
  intro parts split message signed
  rw [sign_ofSeed id length] at signed
  rw [← Except.ok.inj signed, accepts_ofSeed]
  exact congrArg _ (accepts seed parts drawn split)

/-- A backed token is good as long as its record is valid and it has not expired. -/
theorem Issuance.Backed.exists_presented (h : x.Backed flow seeds w)
    (resolves : flow.resolve = KeyAlgorithm.edDsaOf) (long : ∀ seed, seeds seed → seed.length = 32)
    (exact : Json.NoDoublesIn x.custom) (accepts : Ed25519.Accepts seeds x.token.token)
    (valid : w.ledger.hasValid x.token.tokenId = true)
    (fresh : now.seconds < x.token.expiresAt.seconds) :
    ∃ presented, flow.presented w now x.token.token = .ok presented := by
  obtain ⟨key, mem, seed, drawn, material, issues⟩ := h.signed
  have resolved : flow.resolve key = .ok (.ofSeed key.id seed) := by
    rw [resolves, KeyAlgorithm.edDsaOf_of_seed material]
  obtain ⟨r, found, owner⟩ := h.recorded
  rw [Ledger.hasValid_of_find? found] at valid
  exact ⟨_, RefreshFlow.presented_of_issue issues ⟨h.shaped, exact⟩ h.since mem resolved rfl
    (KeyAlgorithm.acceptsOwn_ofSeed key.id (long seed drawn) drawn accepts) found owner valid fresh⟩

/-- With seeds for keys, a token that is good can be renewed exactly when a key is usable. -/
theorem RefreshFlow.renews_iff_of_presented (resolves : flow.resolve = KeyAlgorithm.edDsaOf)
    (window : 0 < flow.window.size) (made : w.signing.MadeFrom seeds)
    (long : ∀ seed, seeds seed → seed.length = 32) (inserts : w.ledger.failInserts = false)
    {token : String} (good : ∃ presented, flow.presented w m.now token = .ok presented)
    (inTime : (m.now.add? flow.codec.span).isSome = true)
    (unused : w.ledger.contains m.freshId = false) (draw : Draw) :
    (∃ issued, ((flow.renew m token).run.run (World.answer draw) w).1 = .ok issued)
      ↔ ∃ key ∈ w.signing.keys, key.isUsable = true := by
  constructor
  · rintro ⟨issued, succeeds⟩
    obtain ⟨p, -, signed, -⟩ := run_renew_eq_ok_iff.1 (Prod.ext succeeds rfl)
    obtain ⟨-, -, key, mem, usable, -⟩ := exists_key_of_signed resolves made signed
    exact ⟨key, mem, usable⟩
  · intro usable
    obtain ⟨p, presents⟩ := good
    have can : flow.CanRenew w token m p := by
      refine ⟨presents, usable, fun key mem _ => ?_, unused⟩
      obtain ⟨seed, drawn, material⟩ := made key mem
      obtain ⟨issued, issues⟩ := TokenCodec.exists_issue
        (fun message => ⟨_, KeyAlgorithm.sign_ofSeed key.id (long seed drawn) message⟩)
        m.freshId p.userId p.claims.custom inTime
      exact ⟨_, issued, by rw [resolves, KeyAlgorithm.edDsaOf_of_seed material], issues⟩
    exact can.succeeds window inserts draw

namespace Service

variable {token : TokenSettings} {rotation : RotationSettings} {draws : Nat → Draw}

/-- A seed that is drawn at some time. -/
def Drawn (draws : Nat → Draw) (seed : Bytes) : Prop :=
  ∃ n, seed = (draws n).seed

/-- Whatever has been done to a service, a token that it has issued can be renewed exactly when a
    signing key is usable, as long as its record is valid and it has not expired: the key that
    signed it may be retired or no longer in the window. The successor's identifier has to be
    unused, and it has to expire at an instant that can be represented. -/
theorem renews_iff (opened : RefreshFlow.ofSettings token rotation KeyAlgorithm.edDsaOf = .ok flow)
    (long : ∀ n, (draws n).seed.length = 32) (clock : Instant) (acts : List Act)
    (fair : ∀ act ∈ acts, act.Fair) :
    let s := (start clock).after flow draws acts
    ∀ x ∈ s.issuances, ∀ m : Moment, Json.NoDoublesIn x.custom →
      Ed25519.Accepts (Drawn draws) x.token.token →
      s.world.ledger.hasValid x.token.tokenId = true →
      m.now.seconds < x.token.expiresAt.seconds →
      (m.now.add? flow.codec.span).isSome = true →
      s.world.ledger.contains m.freshId = false →
      ((∃ issued, (s.run draws (flow.renew m x.token.token).run).1 = .ok issued)
        ↔ ∃ key ∈ s.world.signing.keys, key.isUsable = true) := by
  intro s x mem m exact accepts valid fresh inTime unused
  -- The settings only matter in that the window has room for a key.
  have shape : flow.resolve = KeyAlgorithm.edDsaOf ∧ 0 < flow.window.size := by
    unfold RefreshFlow.ofSettings at opened
    cases read : TokenCodec.ofSettings token with
    | error e => simp [read, Except.map] at opened
    | ok codec =>
      rw [read] at opened
      obtain rfl := Except.ok.inj opened
      exact ⟨rfl, Nat.lt_of_lt_of_le Nat.one_pos (Nat.le_max_right _ _)⟩
  have lengths : ∀ seed, Drawn draws seed → seed.length = 32 := by
    rintro _ ⟨n, rfl⟩
    exact long n
  have sound : s.Sound flow (Drawn draws) := sound_after shape.1 (fun n => ⟨n, rfl⟩) clock fair
  have good := (sound.backed x mem).exists_presented shape.1 lengths exact accepts valid fresh
  have alone : (s.run draws (flow.renew m x.token.token).run).1
      = ((flow.renew m x.token.token).run.run (World.answer (draws 0)) s.world).1 :=
    (step_call flow draws s (.renew m x.token.token) (draws 0)).1
  rw [alone]
  exact RefreshFlow.renews_iff_of_presented shape.1 shape.2 sound.made lengths sound.inserts good
    inTime unused (draws 0)

@[simp] theorem world_step_retireKey (s : Service) (id : Uuid) :
    (s.step flow draws (.retireKey id)).world
      = { s.world with signing := s.world.signing.retire id s.world.clock } := rfl

@[simp] theorem issuances_step_retireKey (s : Service) (id : Uuid) :
    (s.step flow draws (.retireKey id)).issuances = s.issuances := rfl

/-- Issuing a token that can be signed and recorded. -/
theorem step_issue {s : Service} {m : Moment} {userId : Uuid} {custom : Json.Members}
    {issued : IssuedToken} {ledger : Ledger}
    (signed : flow.signed s.world m (flow.newRecord m userId) custom = .ok issued)
    (created : s.world.ledger.create (flow.newRecord m userId) = .ok ledger) :
    (s.step flow draws (.call (.issue m userId custom))).world = { s.world with ledger := ledger }
      ∧ (s.step flow draws (.call (.issue m userId custom))).issuances
        = s.issuances ++ [⟨issued, custom, m.now⟩] := by
  have ran : (flow.issue m userId custom).run.run (World.answer (draws 0)) s.world
      = (.ok issued, { s.world with ledger := ledger }) :=
    RefreshFlow.run_issue_eq_ok_iff.2 ⟨signed, ledger, created, rfl⟩
  obtain ⟨-, world, issuances⟩ := step_call flow draws s (.issue m userId custom) (draws 0)
  rw [FlowCall.operation, ran] at world issuances
  exact ⟨world, issuances⟩

/-! ## A session whose key is retired -/

/-- The flow where nothing is configured. -/
def plainFlow : RefreshFlow :=
  ⟨⟨"keystone", "keystone-api", 604800, by decide, by decide⟩, .ofSettings {}, KeyAlgorithm.edDsaOf⟩

theorem resolve_plainFlow : plainFlow.resolve = KeyAlgorithm.edDsaOf := rfl

/-- Draws that always give the same seed. -/
def oneSeed (n : Nat) : Draw :=
  { Draw.none with keyId := .ofNat n, seed := List.replicate 32 0 }

/-- The algorithm of the key that request `3` makes. -/
def thirdKey : KeyAlgorithm :=
  .ofSeed (.ofNat 3) (List.replicate 32 0)

/-- What is signed in the first token of a session. -/
def firstMessage : Bytes :=
  Bytes.ofText (Compact.signedText
    (Base64Url.encode (Header.render thirdKey.name thirdKey.keyId))
    (Base64Url.encode
      (plainFlow.codec.claimsFor (.ofNat 1) (.ofNat 2) [] ⟨0, 0⟩ ⟨604800, 0⟩).render))

theorem verify_firstMessage :
    Ed25519.verify (Ed25519.publicKey (List.replicate 32 0)) firstMessage
      (Ed25519.sign (List.replicate 32 0) firstMessage) = true := by
  decide +kernel

/-- When it is issued. -/
def firstMoment : Moment :=
  ⟨⟨0, 0⟩, .ofNat 1, 0⟩

/-- A service with two keys. -/
def twoKeys : Service :=
  (start ⟨0, 0⟩).after plainFlow oneSeed [.createKey, .createKey]

/-- The newer of the two keys signs a token, and is retired. The token can still be renewed, up to
    its last second. -/
theorem renews_after_retirement :
    let s := (start ⟨0, 0⟩).after plainFlow oneSeed
      [.createKey, .createKey, .call (.issue firstMoment (.ofNat 2) []), .retireKey (.ofNat 3)]
    ∃ x ∈ s.issuances, x.token.keyId = (Uuid.ofNat 3).toText
      ∧ ∃ issued, (s.run oneSeed
        (plainFlow.renew ⟨⟨604799, 0⟩, .ofNat 4, 0⟩ x.token.token).run).1 = .ok issued := by
  have resolved : plainFlow.resolve ⟨.ofNat 3, .ofSeed (List.replicate 32 0), ⟨0, 0⟩, none⟩
      = .ok thirdKey := by
    rw [thirdKey, resolve_plainFlow, KeyAlgorithm.edDsaOf_of_seed rfl]
  obtain ⟨issued, issues⟩ : ∃ issued, plainFlow.codec.issue thirdKey (.ofNat 1) (.ofNat 2) []
      ⟨0, 0⟩ = .ok issued :=
    TokenCodec.exists_issue (fun message => ⟨_, KeyAlgorithm.sign_ofSeed _ rfl message⟩) _ _ _ rfl
  have signed : plainFlow.signed twoKeys.world firstMoment
      (plainFlow.newRecord firstMoment (.ofNat 2)) [] = .ok issued :=
    RefreshFlow.signedUnder_eq_ok_iff.2 ⟨_, _, rfl, resolved, issues⟩
  obtain ⟨world, issuances⟩ :
      (twoKeys.step plainFlow oneSeed (.call (.issue firstMoment (.ofNat 2) []))).world = _ ∧ _ :=
    step_issue signed (Ledger.create_eq_ok_iff.2 ⟨rfl, rfl, rfl⟩)
  obtain ⟨expiresAt, token, added, written, same⟩ := TokenCodec.issue_eq_ok_iff.1 issues
  obtain rfl : (⟨604800, 0⟩ : Instant) = expiresAt := Option.some.inj added
  have accepts : Ed25519.Accepts (Drawn oneSeed) issued.token := by
    obtain ⟨signature, signed, split⟩ := Compact.write_eq_ok_iff.1 written
    obtain ⟨bytes, rfl⟩ := Compact.sign_eq_ok signed
    rintro _ parts ⟨n, rfl⟩ parted
    rw [same, split, Compact.parts?_joined (Base64Url.dot_not_mem_encode _)
      (Base64Url.dot_not_mem_encode _)] at parted
    obtain rfl := Option.some.inj parted
    exact verify_firstMessage
  intro s
  have last : s = (twoKeys.step plainFlow oneSeed (.call (.issue firstMoment (.ofNat 2) []))).step
      plainFlow oneSeed (.retireKey (.ofNat 3)) := by
    simp only [s, twoKeys, after_cons, after_nil]
  have mem : ⟨issued, [], ⟨0, 0⟩⟩ ∈ s.issuances := by
    rw [last, issuances_step_retireKey, issuances]
    exact List.mem_append_right _ (.head _)
  have opened : RefreshFlow.ofSettings {} {} KeyAlgorithm.edDsaOf = .ok plainFlow := rfl
  refine ⟨_, mem, same ▸ rfl, (renews_iff opened (fun n => rfl) ⟨0, 0⟩ _ ?_ _ mem _ trivial
    accepts ?_ ?_ rfl ?_).2 ?_⟩
  · simp [Act.Fair, Claims.shaped_nil, firstMoment]
  · show s.world.ledger.hasValid issued.tokenId = true
    rw [last, world_step_retireKey, world, same]
    rfl
  · rw [same]
    show (604799 : Int) < 604800
    decide
  · show s.world.ledger.contains (.ofNat 4) = false
    rw [last, world_step_retireKey, world]
    rfl
  · show ∃ key ∈ s.world.signing.keys, key.isUsable = true
    rw [last, world_step_retireKey, world]
    exact ⟨_, .head _, rfl⟩

end Service

end Latchkey

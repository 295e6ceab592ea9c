import Latchkey.Proofs.Ed25519.Envelope
import Latchkey.Proofs.Key.Usable
import Latchkey.Proofs.Session.Alone
import Latchkey.Proofs.Session.Tending
import Latchkey.Proofs.Token.Issued
import Mathlib.Data.List.Induction

set_option autoImplicit false

/-! # A service over time

A service starts with empty stores. Calls of the flow follow, and signing keys are made, retired and
maintained, in any order and however the clock moves. `Service.Sound` says what holds all the time:
whatever has been issued was signed by a key that the pool still has, and has its record in the
ledger (`Service.sound_after`). -/

namespace Latchkey

/-- A token that was issued, with the custom claims that it was given, and when. -/
structure Issuance where
  token : IssuedToken
  custom : Json.Members
  time : Instant

/-- The custom claims that a token carries. -/
def Compact.customOf (token : String) : Json.Members :=
  (payloadClaims? token).elim [] Claims.custom

/-- What a call has issued that ended like this. -/
def FlowCall.issuance? : (call : FlowCall) → Except Error call.Value → Option Issuance
  | .issue m _ custom, .ok issued => some ⟨issued, custom, m.now⟩
  | .renew m token, .ok issued => some ⟨issued, Compact.customOf token, m.now⟩
  | _, _ => none

/-- What can be done to a service. -/
inductive Act
  | call (call : FlowCall)
  | createKey
  | retireKey (id : Uuid)
  | maintain (settings : RotationSettings) (now : Instant)
  | setClock (time : Instant)

/-- What is asked of an act: tokens are issued since 1970, and new claims have the shape of parsed
    ones. -/
def Act.Fair : Act → Prop
  | .call (.issue m _ custom) => 0 ≤ m.now.seconds ∧ Claims.Shaped custom
  | .call (.renew m _) => 0 ≤ m.now.seconds
  | _ => True

/-- The stores of a service, how many requests they have answered, and what has been issued. -/
structure Service where
  requests : Nat
  world : World
  issuances : List Issuance

namespace Service

/-- A service with empty stores. -/
def start (clock : Instant) : Service :=
  ⟨0, .empty clock, []⟩

/-- Runs a program on the stores, none of which fails. Every request has a draw of its own. -/
def run {α : Type} (draws : Nat → Draw) (s : Service) (p : Program Request Request.Answer α) :
    α × Service :=
  let (result, requests, world) := p.run (World.planned (fun _ => none) draws) (s.requests, s.world)
  (result, { s with requests := requests, world := world })

/-- The service after an act. -/
def step (flow : RefreshFlow) (draws : Nat → Draw) (s : Service) : Act → Service
  | .call call =>
    let (result, s) := s.run draws (call.operation flow).run
    { s with issuances := s.issuances ++ (call.issuance? result).toList }
  | .createKey => (s.run draws Maintenance.newSigningKey.run).2
  | .retireKey id => (s.run draws (Operation.signing (.retire id)).run).2
  | .maintain settings now => (s.run draws (Maintenance.pass settings now)).2
  | .setClock time => { s with world := { s.world with clock := time } }

/-- The service after several acts. -/
def after (flow : RefreshFlow) (draws : Nat → Draw) (s : Service) (acts : List Act) : Service :=
  acts.foldl (step flow draws) s

@[simp] theorem after_nil (flow : RefreshFlow) (draws : Nat → Draw) (s : Service) :
    s.after flow draws [] = s := rfl

@[simp] theorem after_cons (flow : RefreshFlow) (draws : Nat → Draw) (s : Service) (act : Act)
    (acts : List Act) :
    s.after flow draws (act :: acts) = (s.step flow draws act).after flow draws acts := rfl

end Service

/-! ## Calls among the acts -/

/-- Whatever a program does, the ledger only moves forward. -/
theorem World.ledger_le_run {α : Type} (plan : Nat → Option Error) (draws : Nat → Draw)
    (p : Program Request Request.Answer α) (n : Nat) (w : World) :
    w.ledger ≤ (p.run (World.planned plan draws) (n, w)).2.2.ledger := by
  induction p generalizing n w with
  | done a => exact w.ledger.le_refl
  | ask request next ih =>
    exact Ledger.le_trans (w.ledger_le_respond (plan n) (draws n) request) (ih _ (n + 1) _)

namespace FlowCall

variable {flow : RefreshFlow} {call : FlowCall} {draws : Nat → Draw}

/-- A call asks for nothing that is drawn. -/
theorem Pending.answer_eq {request : Request} {ledger : Ledger}
    {next : request.Answer → Program Request Request.Answer (Except Error call.Value)}
    (h : call.Pending flow (.ask request next) ledger) (draw draw' : Draw) (w : World) :
    World.answer draw request w = World.answer draw' request w := by
  match request, next, h with
  | .signing (.read _), _, _ => rfl
  | .signing (.recentUsable _), _, _ => rfl
  | .ledger _, _, _ => rfl

/-- So it does not matter what would be drawn. -/
theorem Pending.run_eq {p : Program Request Request.Answer (Except Error call.Value)} {w : World}
    (h : call.Pending flow p w.ledger) (draws : Nat → Draw) (draw : Draw) (n : Nat) :
    ((p.run (World.planned (fun _ => none) draws) (n, w)).1,
        (p.run (World.planned (fun _ => none) draws) (n, w)).2.2)
      = p.run (World.answer draw) w := by
  induction p generalizing n w with
  | done result => rfl
  | ask request next ih =>
    have same : w.respond none (draws n) request = World.answer draw request w :=
      h.answer_eq (draws n) draw w
    have stage := h.respond none (draws n)
    simp only [Program.run, World.planned]
    rw [same] at stage ⊢
    rcases stage with ⟨unmoved, rest⟩ | ⟨write, finish, writes, ends, -⟩
    · exact ih _ (unmoved.symm ▸ rest) (n + 1)
    · rw [ends]
      rfl

end FlowCall

/-! ## What backs a token -/

variable {flow : RefreshFlow} {seeds : Bytes → Prop} {w later : World} {x : Issuance}

/-- A token is backed by the key that signed it, which the pool has, and by its record in the
    ledger. -/
structure Issuance.Backed (flow : RefreshFlow) (seeds : Bytes → Prop) (w : World) (x : Issuance) :
    Prop where
  signed : ∃ key ∈ w.signing.keys, ∃ seed, seeds seed ∧ key.material = .ofSeed seed
    ∧ flow.codec.issue (.ofSeed key.id seed) x.token.tokenId x.token.userId x.custom x.time
      = .ok x.token
  recorded : ∃ r, w.ledger.find? x.token.tokenId = some r ∧ r.userId = x.token.userId
  shaped : Claims.Shaped x.custom
  since : 0 ≤ x.time.seconds

theorem Issuance.Backed.mono (h : x.Backed flow seeds w) (keeps : w.signing.Keeps later.signing)
    (le : w.ledger ≤ later.ledger) : x.Backed flow seeds later := by
  obtain ⟨key, mem, seed, drawn, made, issues⟩ := h.signed
  obtain ⟨key', mem', id, material⟩ := keeps key mem
  obtain ⟨r, found, owner⟩ := h.recorded
  obtain ⟨r', found', ages⟩ := le.ages _ r found
  exact ⟨⟨key', mem', seed, drawn, material.trans made, id.symm ▸ issues⟩,
    ⟨r', found', ages.userId_eq.trans owner⟩, h.shaped, h.since⟩

/-- What is signed was signed by a key of the pool. -/
theorem RefreshFlow.exists_key_of_signed (resolves : flow.resolve = KeyAlgorithm.edDsaOf)
    (made : w.signing.MadeFrom seeds) {m : Moment} {record : LedgerRecord}
    {custom : Json.Members} {issued : IssuedToken}
    (signed : flow.signed w m record custom = .ok issued) :
    issued.tokenId = record.id ∧ issued.userId = record.userId
      ∧ ∃ key ∈ w.signing.keys, key.isUsable = true ∧ ∃ seed, seeds seed
        ∧ key.material = .ofSeed seed
        ∧ flow.codec.issue (.ofSeed key.id seed) record.id record.userId custom m.now
          = .ok issued := by
  obtain ⟨key, algorithm, picked, resolved, issues⟩ := signedUnder_eq_ok_iff.1 signed
  obtain ⟨mem, usable⟩ := Pool.mem_keys_of_mem_recentUsable (KeyWindow.mem_of_pick? picked)
  obtain ⟨seed, drawn, material⟩ := made key mem
  rw [resolves, KeyAlgorithm.edDsaOf_of_seed material] at resolved
  obtain rfl := Except.ok.inj resolved
  obtain ⟨expiresAt, token, -, -, same⟩ := TokenCodec.issue_eq_ok_iff.1 issues
  exact ⟨same ▸ rfl, same ▸ rfl, key, mem, usable, seed, drawn, material, issues⟩

/-- What a call issues is backed when the call ends. -/
theorem FlowCall.backed_of_issuance? (resolves : flow.resolve = KeyAlgorithm.edDsaOf)
    (made : w.signing.MadeFrom seeds) {call : FlowCall} {draw : Draw}
    {result : Except Error call.Value} (fair : (Act.call call).Fair)
    (ran : (call.operation flow).run.run (World.answer draw) w = (result, later))
    (issued : call.issuance? result = some x) : x.Backed flow seeds later := by
  cases call with
  | issue m userId custom =>
    cases result with
    | error e => simp [issuance?] at issued
    | ok token =>
      obtain rfl := Option.some.inj issued
      obtain ⟨signed, ledger, created, rfl⟩ := RefreshFlow.run_issue_eq_ok_iff.1 ran
      obtain ⟨-, fresh, rfl⟩ := Ledger.create_eq_ok_iff.1 created
      obtain ⟨tokenId, owner, key, mem, -, seed, drawn, material, issues⟩ :=
        RefreshFlow.exists_key_of_signed resolves made signed
      refine ⟨⟨key, mem, seed, drawn, material, ?_⟩, ⟨flow.newRecord m userId, ?_, owner.symm⟩,
        fair.2, fair.1⟩
      · rw [tokenId, owner]
        exact issues
      · rw [tokenId, Ledger.find?_push, if_pos rfl]
  | renew m presentedText =>
    cases result with
    | error e => simp [issuance?] at issued
    | ok token =>
      obtain rfl := Option.some.inj issued
      obtain ⟨p, presents, signed, ledger, rotated, rfl⟩ := RefreshFlow.run_renew_eq_ok_iff.1 ran
      obtain ⟨valid, -, fresh, rfl⟩ := Ledger.rotate_eq_ok_iff.1 rotated
      obtain ⟨tokenId, owner, key, mem, -, seed, drawn, material, issues⟩ :=
        RefreshFlow.exists_key_of_signed resolves made signed
      obtain ⟨_, _, -, shown, -⟩ := RefreshFlow.presented_eq_ok_iff.1 presents
      obtain ⟨_, _, -, -, verified, -⟩ := RefreshFlow.presentedUnder_eq_ok_iff.1 shown
      have read := TokenCodec.payloadClaims?_of_verify verified
      have carried : Compact.customOf presentedText = p.claims.custom := by
        simp [Compact.customOf, read]
      have aged := Ledger.le_invalidateWhere (l := w.ledger.push _ fresh) fun r => r.id = p.tokenId
      obtain ⟨r, found, ages⟩ := aged.ages _ _ ((Ledger.find?_push fresh).trans (if_pos rfl))
      refine ⟨⟨key, mem, seed, drawn, material, ?_⟩, ⟨r, ?_, ?_⟩, ?_, fair⟩
      · rw [tokenId, owner]
        exact carried ▸ issues
      · rw [tokenId]
        exact found
      · rw [owner, ages.userId_eq]
      · exact carried ▸ Compact.shaped_of_payloadClaims? read
  | revoke now presentedText => cases result <;> simp [issuance?] at issued
  | revokeAll userId => cases result <;> simp [issuance?] at issued

namespace Service

variable {draws : Nat → Draw} {s : Service} {acts : List Act} {clock : Instant}

/-- What holds of a service all the time. -/
structure Sound (flow : RefreshFlow) (seeds : Bytes → Prop) (s : Service) : Prop where
  inserts : s.world.ledger.failInserts = false
  made : s.world.signing.MadeFrom seeds
  backed : ∀ x ∈ s.issuances, x.Backed flow seeds s.world

theorem sound_start (flow : RefreshFlow) (seeds : Bytes → Prop) (clock : Instant) :
    (start clock).Sound flow seeds :=
  ⟨rfl, fun key mem => by simp [start, World.empty, Pool.empty] at mem, fun x mem => nomatch mem⟩

/-- Programs that tend to keys keep a service sound. -/
theorem Sound.tend {α : Type} (h : s.Sound flow seeds) (drawn : ∀ n, seeds (draws n).seed)
    {p : Program Request Request.Answer α} (tends : p.Tends seeds) :
    (s.run draws p).2.Sound flow seeds := by
  have tended := tends.run (fun _ => none) s.requests drawn h.made
  refine ⟨?_, tended.made, fun x mem => (h.backed x mem).mono tended.keeps ?_⟩
  · exact (congrArg Ledger.failInserts tended.ledger).trans h.inserts
  · exact tended.ledger.symm ▸ s.world.ledger.le_refl

/-- A call runs in a service as it does alone. -/
theorem step_call (flow : RefreshFlow) (draws : Nat → Draw) (s : Service) (call : FlowCall)
    (draw : Draw) :
    (s.run draws (call.operation flow).run).1
        = ((call.operation flow).run.run (World.answer draw) s.world).1
      ∧ (s.step flow draws (.call call)).world
        = ((call.operation flow).run.run (World.answer draw) s.world).2
      ∧ (s.step flow draws (.call call)).issuances
        = s.issuances ++ (call.issuance?
          ((call.operation flow).run.run (World.answer draw) s.world).1).toList := by
  have ran := (FlowCall.pending_operation flow call s.world.ledger).run_eq draws draw s.requests
  rw [← ran]
  exact ⟨rfl, rfl, rfl⟩

/-- Calls keep a service sound. -/
theorem Sound.call (h : s.Sound flow seeds) (resolves : flow.resolve = KeyAlgorithm.edDsaOf)
    {call : FlowCall} (fair : (Act.call call).Fair) :
    (s.step flow draws (.call call)).Sound flow seeds := by
  have pending := FlowCall.pending_operation flow call s.world.ledger
  have le := s.world.ledger_le_run (fun _ => none) draws (call.operation flow).run s.requests
  have atomic := pending.run (fun _ => none) draws s.requests
  have ran := pending.run_eq draws (draws 0) s.requests
  simp only [step, run]
  revert le atomic ran
  rcases (call.operation flow).run.run (World.planned (fun _ => none) draws) (s.requests, s.world)
    with ⟨result, requests, world⟩
  rintro le ⟨-, others, -⟩ ran
  have keys : world.signing = s.world.signing := by rw [others]
  refine ⟨le.inserts.trans h.inserts, keys.symm ▸ h.made, fun x mem => ?_⟩
  -- What was backed before still is, since the keys are the same and the ledger only moved forward.
  rcases List.mem_append.1 mem with old | new
  · exact (h.backed x old).mono (keys ▸ .refl _) le
  · exact FlowCall.backed_of_issuance? resolves h.made fair ran.symm (Option.mem_toList.1 new)

/-- Whatever is done to a service keeps it sound. -/
theorem Sound.step (h : s.Sound flow seeds) (resolves : flow.resolve = KeyAlgorithm.edDsaOf)
    (drawn : ∀ n, seeds (draws n).seed) {act : Act} (fair : act.Fair) :
    (s.step flow draws act).Sound flow seeds := by
  cases act with
  | call call => exact h.call resolves fair
  | createKey => exact h.tend drawn Maintenance.tends_newSigningKey
  | retireKey id => exact h.tend drawn (Maintenance.tends_retire id)
  | maintain settings now => exact h.tend drawn (Maintenance.tends_pass settings now)
  | setClock time =>
    exact ⟨h.inserts, h.made, fun x mem => (h.backed x mem).mono (.refl _) (Ledger.le_refl _)⟩

/-- A service is sound after any acts, however many. -/
theorem sound_after (resolves : flow.resolve = KeyAlgorithm.edDsaOf)
    (drawn : ∀ n, seeds (draws n).seed) (clock : Instant) (fair : ∀ act ∈ acts, act.Fair) :
    ((start clock).after flow draws acts).Sound flow seeds := by
  induction acts using List.reverseRecOn with
  | nil => exact sound_start flow seeds clock
  | append_singleton acts act ih =>
    rw [after, List.foldl_append]
    exact (ih fun act mem => fair act (List.mem_append_left _ mem)).step resolves drawn
      (fair act (by simp))

end Service

end Latchkey

import Latchkey.Key.Maintenance
import Latchkey.Proofs.Key.Keeping
import Latchkey.Proofs.Session.Atomicity

set_option autoImplicit false

/-! # Programs that tend to keys

Making, retiring and maintaining keys never touches the ledger, keeps every signing key and makes
new ones only from the seeds that are drawn. Each part of maintenance is shown to ask only for such
things (`Program.Tends`), and one run lemma says what comes of it (`Program.Tends.run`). -/

namespace Latchkey

/-- A later world with the same ledger, the signing keys of the earlier one, and perhaps more of
    them that were made from the seeds. -/
structure World.Tended (seeds : Bytes → Prop) (w later : World) : Prop where
  ledger : later.ledger = w.ledger
  keeps : w.signing.Keeps later.signing
  made : later.signing.MadeFrom seeds

namespace World

variable {seeds : Bytes → Prop} {w later last : World}

theorem Tended.refl (made : w.signing.MadeFrom seeds) : w.Tended seeds w :=
  ⟨rfl, .refl _, made⟩

theorem Tended.trans (h : w.Tended seeds later) (h' : later.Tended seeds last) :
    w.Tended seeds last :=
  ⟨h'.ledger.trans h.ledger, h.keeps.trans h'.keeps, h'.made⟩

/-- A call to the signing keys tends to them if it brings no material but from the seeds. -/
theorem tended_answer (made : w.signing.MadeFrom seeds) (draw : Draw)
    (call : KeyCall SigningMaterial)
    (new : ∀ material, call = .create material → ∃ seed, seeds seed ∧ material = .ofSeed seed) :
    w.Tended seeds (World.answer draw (.signing call) w).2 :=
  ⟨rfl, Pool.keeps_answer signingNoun w.clock draw.keyId w.signing call,
    made.answer signingNoun w.clock draw.keyId call new⟩

end World

namespace Program

/-- A program that leaves the ledger alone and makes signing keys only from the seeds that it
    draws. -/
def Tends {α : Type} (seeds : Bytes → Prop) : Program Request Request.Answer α → Prop
  | .done _ => True
  | .ask (.signing (.create material)) next =>
    (∃ seed, seeds seed ∧ material = .ofSeed seed) ∧ ∀ answer, Tends seeds (next answer)
  | .ask .drawSeed next => ∀ seed, seeds seed → Tends seeds (next seed)
  | .ask (.ledger _) _ => False
  | .ask _ next => ∀ answer, Tends seeds (next answer)

variable {α β : Type} {seeds : Bytes → Prop} {w : World} {draw : Draw}

theorem Tends.bind {p : Program Request Request.Answer α} {f : α → Program Request Request.Answer β}
    (h : p.Tends seeds) (next : ∀ a, (f a).Tends seeds) : (p.bind f).Tends seeds := by
  induction p with
  | done a => exact next a
  | ask request rest ih =>
    match request, rest, ih, h with
    | .signing (.create _), _, ih, h => exact ⟨h.1, fun answer => ih answer (h.2 answer)⟩
    | .signing (.retire _), _, ih, h => exact fun answer => ih answer (h answer)
    | .signing (.recentUsable _), _, ih, h => exact fun answer => ih answer (h answer)
    | .signing (.read _), _, ih, h => exact fun answer => ih answer (h answer)
    | .drawSeed, _, ih, h => exact fun seed drawn => ih seed (h seed drawn)
    | .encryption _, _, ih, h => exact fun answer => ih answer (h answer)
    | .lockRefill, _, ih, h => exact fun answer => ih answer (h answer)
    | .unlockRefill, _, ih, h => exact fun answer => ih answer (h answer)
    | .drawKeyPair _, _, ih, h => exact fun answer => ih answer (h answer)

/-- One request of such a program. -/
theorem Tends.respond {request : Request}
    {next : request.Answer → Program Request Request.Answer α}
    (h : (ask request next).Tends seeds) (fault : Option Error) (drawn : seeds draw.seed)
    (made : w.signing.MadeFrom seeds) :
    (next (w.respond fault draw request).1).Tends seeds
      ∧ w.Tended seeds (w.respond fault draw request).2 := by
  match request, next, h with
  | .signing (.create material), next, ⟨new, h⟩ =>
    refine ⟨h _, ?_⟩
    cases fault with
    | none =>
      refine World.tended_answer made draw _ fun given same => ?_
      cases same
      exact new
    | some error => exact .refl made
  | .signing (.retire id), next, h =>
    refine ⟨h _, ?_⟩
    cases fault with
    | none => exact World.tended_answer made draw (.retire id) fun _ same => nomatch same
    | some error => exact .refl made
  | .signing (.recentUsable _), next, h => cases fault <;> exact ⟨h _, .refl made⟩
  | .signing (.read _), next, h => cases fault <;> exact ⟨h _, .refl made⟩
  | .drawSeed, next, h => cases fault <;> exact ⟨h _ drawn, .refl made⟩
  | .encryption _, next, h => cases fault <;> exact ⟨h _, ⟨rfl, .refl _, made⟩⟩
  | .lockRefill, next, h => cases fault <;> exact ⟨h _, .refl made⟩
  | .unlockRefill, next, h => cases fault <;> exact ⟨h _, .refl made⟩
  | .drawKeyPair _, next, h => cases fault <;> exact ⟨h _, .refl made⟩

/-- A whole run of such a program. -/
theorem Tends.run {p : Program Request Request.Answer α} {draws : Nat → Draw} (h : p.Tends seeds)
    (plan : Nat → Option Error) (n : Nat) (drawn : ∀ n, seeds (draws n).seed)
    (made : w.signing.MadeFrom seeds) :
    w.Tended seeds (p.run (World.planned plan draws) (n, w)).2.2 := by
  induction p generalizing n w with
  | done a => exact .refl made
  | ask request next ih =>
    obtain ⟨rest, tended⟩ := h.respond (plan n) (drawn n) made
    exact tended.trans (ih _ rest (n + 1) tended.made)

end Program

/-! ## Key maintenance -/

namespace Maintenance

variable {α β : Type} {seeds : Bytes → Prop}

/-- An operation goes on only with what succeeded. -/
theorem tends_bind {first : Operation α} {rest : α → Operation β} (h : first.run.Tends seeds)
    (next : ∀ a, (rest a).run.Tends seeds) : (first >>= rest).run.Tends seeds := by
  rw [ExceptT.run_bind]
  refine h.bind fun result => ?_
  cases result with
  | error e => trivial
  | ok a => exact next a

theorem tends_retire (id : Uuid) : (Operation.signing (.retire id)).run.Tends seeds :=
  fun _ => trivial

theorem tends_retire_encryption (id : Uuid) :
    (Operation.encryption (.retire id)).run.Tends seeds :=
  fun _ => trivial

theorem tends_newSigningKey : newSigningKey.run.Tends seeds :=
  fun seed drawn => ⟨⟨seed, drawn, rfl⟩, fun _ => trivial⟩

theorem tends_retireEach {μ : Type} {retire : Uuid → Operation Bool}
    (h : ∀ id, (retire id).run.Tends seeds) (keys : List (StoredKey μ)) :
    (retireEach retire keys).run.Tends seeds := by
  induction keys with
  | nil => trivial
  | cons key rest ih => exact tends_bind (h key.id) fun _ => tends_bind ih fun _ => trivial

theorem tends_createSigning (missing : Nat) : (createSigning missing).run.Tends seeds := by
  induction missing with
  | zero => trivial
  | succ missing ih => exact tends_bind tends_newSigningKey fun _ => ih

theorem tends_refilling {operation : Operation α} (h : operation.run.Tends seeds) :
    (Operation.refilling operation).run.Tends seeds :=
  fun _ => h.bind fun _ _ => trivial

theorem tends_step (title : String) {operation : Operation Nat} (h : operation.run.Tends seeds) :
    (step title operation).Tends seeds := by
  refine h.bind fun result => ?_
  cases result <;> trivial

theorem tends_retireSigning (s : RotationSettings) (now : Instant) :
    (retireSigning s now).run.Tends seeds :=
  tends_bind trivial fun _ => tends_bind (fun _ => trivial) fun _ => tends_retireEach tends_retire _

theorem tends_ensureSigning (s : RotationSettings) : (ensureSigning s).run.Tends seeds :=
  tends_refilling (tends_bind (fun _ => trivial) fun _ =>
    tends_bind (tends_createSigning _) fun _ => trivial)

theorem tends_retireEncryption (s : RotationSettings) (now : Instant) :
    (retireEncryption s now).run.Tends seeds :=
  tends_bind trivial fun _ => tends_bind (fun _ => trivial) fun _ =>
    tends_retireEach tends_retire_encryption _

theorem tends_ensureEncryption (s : RotationSettings) : (ensureEncryption s).run.Tends seeds := by
  refine tends_refilling (tends_bind (fun _ => trivial) fun usable => ?_)
  cases usable.isEmpty with
  | false => trivial
  | true =>
    refine tends_bind ?_ fun _ => tends_bind (fun _ => trivial) fun _ => trivial
    unfold newKeyPair
    split
    · trivial
    · exact fun _ => trivial

/-- A whole pass. -/
theorem tends_pass (s : RotationSettings) (now : Instant) : (pass s now).Tends seeds := by
  refine (tends_step _ (tends_retireSigning s now)).bind fun _ => ?_
  refine (tends_step _ (tends_ensureSigning s)).bind fun _ => ?_
  refine (tends_step _ (tends_retireEncryption s now)).bind fun _ => ?_
  refine (tends_step _ ?_).bind fun _ => trivial
  exact tends_bind (tends_ensureEncryption s) fun _ => trivial

end Maintenance

end Latchkey

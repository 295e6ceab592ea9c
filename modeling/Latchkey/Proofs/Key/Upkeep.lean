import Latchkey.Key.Maintenance
import Latchkey.Proofs.Key.Stock

set_option autoImplicit false

/-! # The course of maintenance

What maintenance does to the stock follows a fixed course, whatever its requests are answered, as
long as nothing fails: for each pool in turn it retires keys, takes the refill lock, counts what is
usable, creates exactly what is missing to the target, and gives the lock back. `Program.Walks` says
that a program follows the course, and counts the keys that it has retired on the way; whole passes
do, and single refills follow the part for signing keys (`UpkeepCall.walks_program`). -/

namespace Latchkey

namespace Maintenance

/-! ## The course -/

/-- Where a call is on the course. -/
inductive Stage
  /-- Before the refill of a pool; keys of the pool are retired here. -/
  | retiring (kind : PoolKind)
  /-- With the lock, before the usable keys are counted. -/
  | counting (kind : PoolKind)
  /-- With the lock, and so many keys are still to be created. -/
  | creating (kind : PoolKind) (missing : Nat)
  | ended

/-- How many usable keys a refill aims at. -/
def target (s : RotationSettings) : PoolKind → Nat
  | .signing => s.minUsableKeys
  | .encryption => 1

/-- What follows a refill, in a full pass or in a single refill. -/
def afterRefill (full : Bool) : PoolKind → Stage
  | .signing => if full then .retiring .encryption else .ended
  | .encryption => .ended

/-- One step on the course. -/
inductive Step (s : RotationSettings) (full : Bool) : Stage → Effect → Stage → Prop
  | quiet (stage : Stage) : Step s full stage .quiet stage
  | lists (kind : PoolKind) (limit found : Nat) :
    Step s full (.retiring kind) (.listed kind limit found) (.retiring kind)
  | retires (kind : PoolKind) (id : Uuid) (was : Bool) :
    Step s full (.retiring kind) (.retired kind id was) (.retiring kind)
  | locks (kind : PoolKind) : Step s full (.retiring kind) .locked (.counting kind)
  | counts (kind : PoolKind) (found : Nat) :
    Step s full (.counting kind) (.listed kind (target s kind) found)
      (.creating kind (target s kind - found))
  | creates (kind : PoolKind) (missing : Nat) (id : Uuid) :
    Step s full (.creating kind (missing + 1)) (.created kind id) (.creating kind missing)
  | leaves (kind : PoolKind) :
    Step s full (.creating kind 0) .unlocked (afterRefill full kind)

/-- How many keys of each pool have been retired. -/
abbrev Tally := PoolKind → Nat

namespace Tally

/-- The tally with so many more keys of a pool. -/
def plus (tally : Tally) (kind : PoolKind) (n : Nat) : Tally :=
  Function.update tally kind (tally kind + n)

@[simp] theorem plus_zero (tally : Tally) (kind : PoolKind) : tally.plus kind 0 = tally :=
  Function.update_eq_self kind tally

@[simp] theorem plus_plus (tally : Tally) (kind : PoolKind) (m n : Nat) :
    (tally.plus kind m).plus kind n = tally.plus kind (m + n) := by
  simp [plus, Nat.add_assoc]

end Tally

end Maintenance

/-- The tally after an effect. -/
def Effect.tallied : Effect → Maintenance.Tally → Maintenance.Tally
  | .retired kind _ was, tally => tally.plus kind (if was then 1 else 0)
  | _, tally => tally

/-- The tally counts the keys that have gone. -/
theorem Stock.Occurs.tallied_eq {before later : Stock} {e : Effect} (h : before.Occurs e later)
    (subset : ∀ kind, (before kind).usable ⊆ (before kind).known) (tally : Maintenance.Tally)
    (other : PoolKind) : e.tallied tally other = tally other + (before.gone later other).card := by
  cases h with
  | retired kind id =>
    by_cases same : other = kind
    · subst same
      rw [gone_retire (@subset other id), Effect.tallied, Maintenance.Tally.plus,
        Function.update_self]
      by_cases fit : id ∈ (before other).usable <;> simp [fit]
    · rw [gone_of_eq (retire_of_ne same), Effect.tallied, Maintenance.Tally.plus,
        Function.update_of_ne same]
      rfl
  | created kind id =>
    by_cases same : other = kind
    · subst same
      rw [gone_create]
      rfl
    · rw [gone_of_eq (create_of_ne same)]
      rfl
  | _ =>
    rw [gone_of_eq rfl]
    rfl

/-- Whether nothing fails with an effect. If no encryption key is found to be usable, a key pair is
    generated next, which fails at once if the modulus is too small. -/
def Effect.calm (s : RotationSettings) : Effect → Bool
  | .failed => false
  | .listed .encryption 1 0 => Maintenance.minModulusBits ≤ s.encryptionKeyBits
  | _ => true

theorem Effect.ne_failed_of_calm {s : RotationSettings} {e : Effect} (calm : e.calm s = true) :
    e ≠ .failed := by
  rintro rfl
  exact Bool.false_ne_true calm

/-! ## Programs that follow it -/

namespace Program

open Maintenance (Stage Tally Step)

/-- A program follows the course from a stage and a tally on, and ends in keeping with `Q`, as long
    as nothing fails. -/
def Walks {α : Type} (s : RotationSettings) (full : Bool) (Q : α → Stage → Tally → Prop) :
    Program Request Request.Answer α → Stage → Tally → Prop
  | .done a, stage, tally => Q a stage tally
  | .ask request next, stage, tally => ∀ answer, (request.effect answer).calm s = true →
    ∃ stage', Step s full stage (request.effect answer) stage'
      ∧ Walks s full Q (next answer) stage' ((request.effect answer).tallied tally)

variable {α β : Type} {s : RotationSettings} {full : Bool} {stage : Stage} {tally : Tally}
  {Q : α → Stage → Tally → Prop} {R : β → Stage → Tally → Prop}

theorem Walks.bind {p : Program Request Request.Answer α} {f : α → Program Request Request.Answer β}
    (h : p.Walks s full Q stage tally)
    (next : ∀ a stage tally, Q a stage tally → (f a).Walks s full R stage tally) :
    (p.bind f).Walks s full R stage tally := by
  induction p generalizing stage tally with
  | done a => exact next a stage tally h
  | ask request rest ih =>
    intro answer calm
    obtain ⟨stage', step, walks⟩ := h answer calm
    exact ⟨stage', step, ih answer walks⟩

theorem Walks.mono {p : Program Request Request.Answer α} {Q' : α → Stage → Tally → Prop}
    (h : p.Walks s full Q stage tally) (weaker : ∀ a stage tally, Q a stage tally → Q' a stage tally) :
    p.Walks s full Q' stage tally := by
  induction p generalizing stage tally with
  | done a => exact weaker a stage tally h
  | ask request rest ih =>
    intro answer calm
    obtain ⟨stage', step, walks⟩ := h answer calm
    exact ⟨stage', step, ih answer walks⟩

end Program

namespace Maintenance

variable {α β μ : Type} {s : RotationSettings} {full : Bool} {stage : Stage} {tally : Tally}
  {kind : PoolKind}

/-- An operation succeeds, in keeping with `Q`. -/
def Succeeding (Q : α → Stage → Tally → Prop) : Except Error α → Stage → Tally → Prop
  | .ok a => Q a
  | .error _ => fun _ _ => False

theorem of_succeeding {Q : Stage → Tally → Prop} {result : Except Error α}
    (h : Succeeding (fun _ => Q) result stage tally) : Q stage tally := by
  cases result with
  | error e => exact h.elim
  | ok a => exact h

theorem walks_bind {first : Operation α} {rest : α → Operation β}
    {Q : α → Stage → Tally → Prop} {R : Except Error β → Stage → Tally → Prop}
    (h : first.run.Walks s full (Succeeding Q) stage tally)
    (next : ∀ a stage tally, Q a stage tally → (rest a).run.Walks s full R stage tally) :
    (first >>= rest).run.Walks s full R stage tally := by
  rw [ExceptT.run_bind]
  refine h.bind fun result stage tally succeeds => ?_
  cases result with
  | error e => exact succeeds.elim
  | ok a => exact next a stage tally succeeds

/-! ### Retirements -/

/-- So many keys of a pool have been retired more. -/
def Retires (kind : PoolKind) (before : Tally) (n : Nat) (stage : Stage) (tally : Tally) : Prop :=
  stage = .retiring kind ∧ tally = before.plus kind n

theorem walks_retireEach {retire : Uuid → Operation Bool}
    (h : ∀ id tally, (retire id).run.Walks s full
      (Succeeding fun was => Retires kind tally (if was then 1 else 0)) (.retiring kind) tally)
    (keys : List (StoredKey μ)) (tally : Tally) :
    (retireEach retire keys).run.Walks s full (Succeeding (Retires kind tally)) (.retiring kind)
      tally := by
  induction keys generalizing tally with
  | nil => exact ⟨rfl, by simp⟩
  | cons key rest ih =>
    refine walks_bind (h key.id tally) fun was stage tally₁ ⟨at₁, count₁⟩ => ?_
    subst at₁ count₁
    refine walks_bind (ih _) fun more stage tally₂ ⟨at₂, count₂⟩ => ?_
    refine ⟨at₂, count₂.trans ?_⟩
    cases was <;> simp [Nat.add_comm]

/-- What a step of a pass reports. -/
def counted : Except Error Nat → Nat
  | .ok n => n
  | .error _ => 0

theorem walks_step {title : String} {operation : Operation Nat} {Q : Nat → Stage → Tally → Prop}
    (h : operation.run.Walks s full (fun result => Q (counted result)) stage tally) :
    (step title operation).Walks s full (fun report => Q report.1) stage tally := by
  refine h.bind fun result stage tally reported => ?_
  cases result <;> exact reported

/-- A step that retires keys reports how many it has retired. Its limit may be out of range; then it
    retires none. -/
theorem walks_retire {limit : Except Error Instant} {list : Operation (List (StoredKey μ))}
    {retire : Uuid → Operation Bool}
    (lists : ∀ tally, list.run.Walks s full
      (Succeeding fun _ => Retires kind tally 0) (.retiring kind) tally)
    (retires : ∀ id tally, (retire id).run.Walks s full
      (Succeeding fun was => Retires kind tally (if was then 1 else 0)) (.retiring kind) tally) :
    (Operation.ofResult limit >>= fun limit => list >>= fun keys =>
        retireEach retire (keys.filter fun key => key.createdAt < limit)).run.Walks s full
      (fun result => Retires kind tally (counted result)) (.retiring kind) tally := by
  cases limit with
  | error e => exact ⟨rfl, (Tally.plus_zero tally kind).symm⟩
  | ok limit =>
    have walks : (list >>= fun keys => retireEach retire
        (keys.filter fun key => key.createdAt < limit)).run.Walks s full
          (Succeeding (Retires kind tally)) (.retiring kind) tally := by
      refine walks_bind (lists tally) ?_
      rintro keys _ _ ⟨rfl, rfl⟩
      rw [Tally.plus_zero]
      exact walks_retireEach retires _ _
    refine walks.mono fun result stage tally' succeeds => ?_
    cases result with
    | error e => exact succeeds.elim
    | ok n => exact succeeds

theorem walks_retireSigning (now : Instant) :
    (retireSigning s now).run.Walks s full (fun result => Retires .signing tally (counted result))
      (.retiring .signing) tally := by
  refine walks_retire (fun tally answer calm => ?_) fun id tally answer calm => ?_
  · rcases answer with e | keys
    · exact absurd calm Bool.false_ne_true
    · exact ⟨_, .lists .., rfl, (Tally.plus_zero tally _).symm⟩
  · rcases answer with e | was
    · exact absurd calm Bool.false_ne_true
    · exact ⟨_, .retires .., rfl, rfl⟩

theorem walks_retireEncryption (now : Instant) :
    (retireEncryption s now).run.Walks s full
      (fun result => Retires .encryption tally (counted result)) (.retiring .encryption) tally := by
  refine walks_retire (fun tally answer calm => ?_) fun id tally answer calm => ?_
  · rcases answer with e | keys
    · exact absurd calm Bool.false_ne_true
    · exact ⟨_, .lists .., rfl, (Tally.plus_zero tally _).symm⟩
  · rcases answer with e | was
    · exact absurd calm Bool.false_ne_true
    · exact ⟨_, .retires .., rfl, rfl⟩

/-! ### Refills -/

/-- Without retiring anything, a stage is reached. -/
def Reaches (before : Tally) (reached : Stage) (stage : Stage) (tally : Tally) : Prop :=
  reached = stage ∧ before = tally

theorem walks_refilling {operation : Operation α}
    (h : operation.run.Walks s full (Succeeding fun _ => Reaches tally (.creating kind 0))
      (.counting kind) tally) :
    (Operation.refilling operation).run.Walks s full
      (Succeeding fun _ => Reaches tally (afterRefill full kind)) (.retiring kind) tally := by
  intro answer _
  refine ⟨_, .locks kind, h.bind fun result stage tally' succeeds => ?_⟩
  cases result with
  | error e => exact succeeds.elim
  | ok a =>
    obtain ⟨rfl, rfl⟩ := succeeds
    exact fun _ _ => ⟨_, .leaves kind, rfl, rfl⟩

theorem walks_createSigning (missing : Nat) (tally : Tally) :
    (createSigning missing).run.Walks s full
      (Succeeding fun _ => Reaches tally (.creating .signing 0)) (.creating .signing missing)
      tally := by
  induction missing with
  | zero => exact ⟨rfl, rfl⟩
  | succ missing ih =>
    refine walks_bind (Q := fun _ => Reaches tally (.creating .signing missing)) ?_ ?_
    · intro seed _
      refine ⟨_, .quiet _, fun answer calm => ?_⟩
      rcases answer with e | key
      · exact absurd calm Bool.false_ne_true
      · exact ⟨_, .creates .., rfl, rfl⟩
    · rintro _ _ _ ⟨rfl, rfl⟩
      exact ih

theorem walks_ensureSigning (tally : Tally) :
    (ensureSigning s).run.Walks s full
      (Succeeding fun _ => Reaches tally (afterRefill full .signing)) (.retiring .signing) tally := by
  refine walks_refilling (walks_bind
    (Q := fun usable => Reaches tally (.creating .signing (s.minUsableKeys - usable.length))) ?_ ?_)
  · intro answer calm
    rcases answer with e | keys
    · exact absurd calm Bool.false_ne_true
    · exact ⟨_, .counts .signing keys.length, rfl, rfl⟩
  · rintro usable _ _ ⟨rfl, rfl⟩
    refine walks_bind (walks_createSigning _ _) ?_
    rintro _ _ _ ⟨rfl, rfl⟩
    exact ⟨rfl, rfl⟩

theorem walks_createEncryption (large : minModulusBits ≤ s.encryptionKeyBits) (tally : Tally) :
    (newKeyPair s.encryptionKeyBits >>= fun material =>
        Operation.encryption (.create material) >>= fun _ => (return true : Operation Bool)).run.Walks
      s full (Succeeding fun _ => Reaches tally (.creating .encryption 0)) (.creating .encryption 1)
      tally := by
  refine walks_bind (Q := fun _ => Reaches tally (.creating .encryption 1)) ?_ ?_
  · rw [newKeyPair, if_neg (Nat.not_lt.2 large)]
    intro answer calm
    rcases answer with e | material
    · exact absurd calm Bool.false_ne_true
    · exact ⟨_, .quiet _, rfl, rfl⟩
  · rintro material _ _ ⟨rfl, rfl⟩
    intro answer calm
    rcases answer with e | key
    · exact absurd calm Bool.false_ne_true
    · exact ⟨_, .creates .., rfl, rfl⟩

theorem walks_ensureEncryption (tally : Tally) :
    (ensureEncryption s).run.Walks s full
      (Succeeding fun _ => Reaches tally (afterRefill full .encryption)) (.retiring .encryption)
      tally := by
  refine walks_refilling (walks_bind
    (Q := fun usable stage tally' => (usable = [] → minModulusBits ≤ s.encryptionKeyBits)
      ∧ Reaches tally (.creating .encryption (1 - usable.length)) stage tally') ?_ ?_)
  · intro answer calm
    rcases answer with e | keys
    · exact absurd calm Bool.false_ne_true
    · refine ⟨_, .counts .encryption keys.length, ?_, rfl, rfl⟩
      rintro rfl
      exact of_decide_eq_true calm
  · rintro usable _ _ ⟨large, rfl, rfl⟩
    cases usable with
    | cons key rest =>
      rw [List.length_cons, Nat.sub_eq_zero_of_le (Nat.le_add_left 1 _)]
      exact ⟨rfl, rfl⟩
    | nil => exact walks_createEncryption (large rfl) tally

end Maintenance

/-! ## Whole calls -/

open Maintenance (Stage Tally Reaches)

/-- A call that tends to the keys: a full pass as of an instant, or a single refill of the signing
    keys. -/
inductive UpkeepCall
  | pass (now : Instant)
  | refill

namespace UpkeepCall

/-- What a call answers. -/
abbrev Value : UpkeepCall → Type
  | .pass _ => MaintenanceReport
  | .refill => Except Error Nat

/-- What a call does. -/
def program (s : RotationSettings) : (call : UpkeepCall) → Program Request Request.Answer call.Value
  | .pass now => Maintenance.pass s now
  | .refill => (Maintenance.ensureSigning s).run

/-- Whether a call is a full pass. -/
def isFull : UpkeepCall → Bool
  | .pass _ => true
  | .refill => false

/-- How many keys of each pool a call reports as retired. -/
def reported : (call : UpkeepCall) → call.Value → Tally
  | .pass _, report, .signing => report.signingRetired
  | .pass _, report, .encryption => report.encryptionRetired
  | .refill, _, _ => 0

/-- A whole call follows the course from its beginning to its end, and reports how many keys it has
    retired on the way. -/
theorem walks_program (s : RotationSettings) (call : UpkeepCall) :
    (call.program s).Walks s call.isFull
      (fun value => Reaches (call.reported value) .ended) (.retiring .signing) fun _ => 0 := by
  cases call with
  | refill =>
    exact (Maintenance.walks_ensureSigning _).mono fun _ _ _ => Maintenance.of_succeeding
  | pass now =>
    refine (Maintenance.walks_step (Maintenance.walks_retireSigning now)).bind ?_
    rintro ⟨signingRetired, e₁⟩ _ _ ⟨rfl, rfl⟩
    have refills : ∀ tally, (Maintenance.ensureSigning s).run.Walks s true
        (fun _ => Reaches tally (.retiring .encryption)) (.retiring .signing) tally := fun tally =>
      (Maintenance.walks_ensureSigning tally).mono fun _ _ _ => Maintenance.of_succeeding
    have provides : ∀ tally, ((Maintenance.ensureEncryption s).map fun created =>
        if created then 1 else 0).run.Walks s true (fun _ => Reaches tally .ended)
          (.retiring .encryption) tally := fun tally => by
      refine (Maintenance.walks_ensureEncryption tally).bind fun result _ _ succeeds => ?_
      cases result with
      | error e => exact succeeds.elim
      | ok created => exact succeeds
    refine (Maintenance.walks_step (Q := fun _ => Reaches _ _) (refills _)).bind ?_
    rintro ⟨signingCreated, e₂⟩ _ _ ⟨rfl, rfl⟩
    refine (Maintenance.walks_step (Maintenance.walks_retireEncryption now)).bind ?_
    rintro ⟨encryptionRetired, e₃⟩ _ _ ⟨rfl, rfl⟩
    refine (Maintenance.walks_step (Q := fun _ => Reaches _ _) (provides _)).bind ?_
    rintro ⟨encryptionCreated, e₄⟩ _ _ ⟨rfl, rfl⟩
    refine ⟨rfl, funext fun kind => ?_⟩
    cases kind <;> simp [reported, Tally.plus]

end UpkeepCall

end Latchkey

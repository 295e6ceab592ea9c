import Latchkey.Proofs.Key.Upkeep
import Mathlib.Algebra.BigOperators.Group.Finset.Piecewise
import Mathlib.Data.Fintype.BigOperators

set_option autoImplicit false

/-! # Many calls on the course of maintenance

Of calls that tend to the same pools at the same time, it matters where each of them is on the course,
what is in stock, and who holds the refill lock. These change by small advances, and what every
advance keeps (`Crew.Sound.advance`) tells how many keys are usable in the end. How many keys each
call has retired is kept apart from that (`Accounted`). -/

namespace Latchkey

open Maintenance (Stage Tally Step target afterRefill)

/-! ## Crews -/

namespace Maintenance.Stage

/-- At these stages a call holds the refill lock. -/
def Holds : Stage → Prop
  | .counting _ | .creating _ _ => True
  | .retiring _ | .ended => False

/-- A call at this stage creates no more keys than the target leaves room for. -/
def Fits (s : RotationSettings) (count : PoolKind → Nat) : Stage → Prop
  | .creating kind missing => missing = 0 ∨ count kind + missing ≤ target s kind
  | .retiring _ | .counting _ | .ended => True

/-- A call at this stage sees to it that a pool reaches its target: it will count the usable keys, or
    is creating all that are missing. -/
def Supplies (s : RotationSettings) (full : Bool) (count : Nat) (kind : PoolKind) : Stage → Prop
  | .retiring here | .counting here => here = kind ∨ full = true ∧ here = .signing
  | .creating here missing =>
    here = kind ∧ target s kind ≤ count + missing
      ∨ full = true ∧ here = .signing ∧ kind = .encryption
  | .ended => False

variable {s : RotationSettings} {full : Bool} {kind : PoolKind}

theorem Fits.mono {count count' : PoolKind → Nat} {stage : Stage} (h : stage.Fits s count)
    (fewer : ∀ kind, count' kind ≤ count kind) : stage.Fits s count' := by
  cases stage with
  | creating kind missing => exact h.imp_right (Nat.add_le_add_right (fewer kind) missing).trans
  | _ => trivial

theorem Supplies.mono {count count' : Nat} {stage : Stage} (h : stage.Supplies s full count kind)
    (more : count ≤ count') : stage.Supplies s full count' kind := by
  cases stage with
  | creating here missing =>
    exact h.imp_left fun ⟨same, enough⟩ => ⟨same, enough.trans (Nat.add_le_add_right more missing)⟩
  | _ => exact h

theorem not_holds_afterRefill (full : Bool) (kind : PoolKind) : ¬ (afterRefill full kind).Holds := by
  cases kind <;> cases full <;> exact id

theorem fits_afterRefill {count : PoolKind → Nat} (full : Bool) (kind : PoolKind) :
    (afterRefill full kind).Fits s count := by
  cases kind <;> cases full <;> trivial

end Maintenance.Stage

/-- Where all calls are, what is in stock, and who holds the refill lock. -/
structure Crew (ι : Type) where
  stage : ι → Stage
  stock : Stock
  holder : Option ι

namespace Crew

variable {ι : Type} {s : RotationSettings} {full : ι → Bool} {i j : ι} {kind : PoolKind}
  {c c' : Crew ι}

/-- The calls at stages inside a refill are those that hold the lock. -/
def Locked (c : Crew ι) : Prop :=
  ∀ i, (c.stage i).Holds ↔ c.holder = some i

/-- A pool has reached its target, or some call sees to it. -/
def Supplied (s : RotationSettings) (full : ι → Bool) (c : Crew ι) (kind : PoolKind) : Prop :=
  (∃ i, (c.stage i).Supplies s (full i) (c.stock.count kind) kind) ∨ target s kind ≤ c.stock.count kind

/-- What every advance keeps. -/
structure Sound (s : RotationSettings) (full : ι → Bool) (c : Crew ι) : Prop where
  locked : c.Locked
  fits : ∀ i, (c.stage i).Fits s c.stock.count
  supplied : ∀ kind i, kind = .signing ∨ full i = true → c.Supplied s full kind

/-- Calls that all are at their beginning. -/
theorem sound_start (s : RotationSettings) (full : ι → Bool) (stock : Stock) :
    Sound s full ⟨fun _ => .retiring .signing, stock, none⟩ where
  locked i := by simp [Stage.Holds]
  fits i := trivial
  supplied kind i serves := by
    refine .inl ⟨i, ?_⟩
    rcases serves with rfl | isFull
    · exact .inl rfl
    · exact .inr ⟨isFull, rfl⟩

/-- Only one call holds the lock. -/
theorem Locked.eq_of_holds (h : c.Locked) (mine : (c.stage i).Holds) (theirs : (c.stage j).Holds) :
    j = i :=
  Option.some.inj (((h j).1 theirs).symm.trans ((h i).1 mine))

/-- When all calls have ended, each pool that one of them serves has reached its target. -/
theorem Sound.target_le (h : c.Sound s full) (ended : ∀ i, c.stage i = .ended)
    (serves : kind = .signing ∨ full i = true) : target s kind ≤ c.stock.count kind := by
  rcases h.supplied kind i serves with ⟨j, supplies⟩ | enough
  · rw [ended j] at supplies
    exact supplies.elim
  · exact enough

theorem Supplied.of_stage (h : c.Supplied s full kind) (more : c.stock.count kind ≤ c'.stock.count kind)
    (others : ∀ j, j ≠ i → c'.stage j = c.stage j)
    (mine : (c.stage i).Supplies s (full i) (c.stock.count kind) kind →
      (c'.stage i).Supplies s (full i) (c'.stock.count kind) kind ∨ target s kind ≤ c'.stock.count kind) :
    c'.Supplied s full kind := by
  rcases h with ⟨j, supplies⟩ | enough
  · by_cases own : j = i
    · subst own
      exact (mine supplies).imp_left fun supplies => ⟨j, supplies⟩
    · refine .inl ⟨j, ?_⟩
      rw [others j own]
      exact supplies.mono more
  · exact .inr (enough.trans more)

end Crew

/-! ## Accounts -/

/-- The keys of each pool that have been retired remain so, and are as many as the calls have retired
    together. -/
structure Accounted {ι : Type} [Fintype ι] (stock : Stock) (retired : PoolKind → Finset Uuid)
    (tally : ι → Tally) : Prop where
  remain : ∀ kind, retired kind ⊆ (stock kind).retired
  card : ∀ kind, (retired kind).card = ∑ i, tally i kind

namespace Accounted

variable {ι : Type} [Fintype ι] {stock later : Stock} {retired : PoolKind → Finset Uuid} {tally : ι → Tally}

theorem start (stock : Stock) : Accounted stock (fun _ => ∅) fun (_ : ι) _ => 0 where
  remain _ := Finset.empty_subset _
  card _ := by simp

theorem rest (h : Accounted stock retired tally) :
    Accounted stock (fun kind => retired kind ∪ stock.gone stock kind) tally := by
  simpa only [Stock.gone_of_eq, Finset.union_empty] using h

/-- Accounts are kept when one call goes on. -/
theorem occurs [DecidableEq ι] {e : Effect} (h : Accounted stock retired tally) (happens : stock.Occurs e later)
    (subset : ∀ kind, (stock kind).usable ⊆ (stock kind).known) (i : ι) :
    Accounted later (fun kind => retired kind ∪ stock.gone later kind)
      (Function.update tally i (e.tallied (tally i))) where
  remain kind :=
    Finset.union_subset ((h.remain kind).trans (happens.retired_subset kind)) Finset.inter_subset_right
  card kind := by
    have apart : Disjoint (retired kind) (stock.gone later kind) :=
      Finset.sdiff_disjoint.mono (h.remain kind) Finset.inter_subset_left
    have others : (fun j => Function.update tally i (e.tallied (tally i)) j kind)
        = Function.update (fun j => tally j kind) i (e.tallied (tally i) kind) := by
      funext j
      by_cases mine : j = i
      · subst mine
        simp
      · simp [mine]
    have sum := Finset.add_sum_erase Finset.univ (fun j => tally j kind) (Finset.mem_univ i)
    rw [Finset.card_union_of_disjoint apart, h.card, others,
      Finset.sum_update_of_mem (Finset.mem_univ i), happens.tallied_eq subset,
      Finset.sdiff_singleton_eq_erase]
    omega

end Accounted

/-! ## Advances -/

variable {ι : Type} [DecidableEq ι]

/-- How a crew can go on. -/
inductive Advance (s : RotationSettings) (full : ι → Bool) : Crew ι → Crew ι → Prop
  | rests (c : Crew ι) : Advance s full c c
  | retires (c : Crew ι) (i : ι) (kind : PoolKind) (id : Uuid) (here : c.stage i = .retiring kind) :
    Advance s full c ⟨c.stage, c.stock.retire kind id, c.holder⟩
  | locks (c : Crew ι) (i : ι) (kind : PoolKind) (here : c.stage i = .retiring kind)
      (free : c.holder = none) :
    Advance s full c ⟨Function.update c.stage i (.counting kind), c.stock, some i⟩
  | counts (c : Crew ι) (i : ι) (kind : PoolKind) (here : c.stage i = .counting kind) :
    Advance s full c
      ⟨Function.update c.stage i (.creating kind (target s kind - c.stock.count kind)), c.stock,
        c.holder⟩
  | creates (c : Crew ι) (i : ι) (kind : PoolKind) (missing : Nat) (id : Uuid)
      (here : c.stage i = .creating kind (missing + 1)) (unusable : id ∉ (c.stock kind).usable) :
    Advance s full c
      ⟨Function.update c.stage i (.creating kind missing), c.stock.create kind id, c.holder⟩
  | leaves (c : Crew ι) (i : ι) (kind : PoolKind) (here : c.stage i = .creating kind 0) :
    Advance s full c ⟨Function.update c.stage i (afterRefill (full i) kind), c.stock, none⟩

/-- Who holds the lock after an effect of a call. -/
def Effect.heldBy (i : ι) : Effect → Option ι → Option ι
  | .locked, _ => some i
  | .unlocked, _ => none
  | _, holder => holder

variable {s : RotationSettings} {full : ι → Bool} {i : ι} {kind : PoolKind} {c c' : Crew ι}

/-- A step on the course, together with what happens to the stock then, is an advance. -/
theorem advance_of_step {e : Effect} {stage : Stage} {stock : Stock}
    (step : Step s (full i) (c.stage i) e stage) (occurs : c.stock.Occurs e stock)
    (free : e = .locked → c.holder = none)
    (subset : ∀ kind, (c.stock kind).usable ⊆ (c.stock kind).known) :
    Advance s full c ⟨Function.update c.stage i stage, stock, e.heldBy i c.holder⟩ := by
  generalize here : c.stage i = before at step
  have same : Function.update c.stage i before = c.stage := here ▸ Function.update_eq_self i c.stage
  cases step with
  | quiet =>
    cases occurs
    rw [same]
    exact .rests c
  | lists kind limit found =>
    cases occurs
    rw [same]
    exact .rests c
  | retires kind id was =>
    cases occurs
    rw [same]
    exact .retires c i kind id here
  | locks kind =>
    cases occurs
    exact .locks c i kind here (free rfl)
  | counts kind found =>
    cases occurs
    have missing : target s kind - min (target s kind) (c.stock.count kind)
        = target s kind - c.stock.count kind := by omega
    rw [missing]
    exact .counts c i kind here
  | creates kind missing id =>
    cases occurs with
    | created _ _ fresh =>
      exact .creates c i kind missing id here fun mem => fresh (subset kind mem)
  | leaves kind =>
    cases occurs
    exact .leaves c i kind here

namespace Crew

/-- A key is created only where the target leaves room for it. -/
theorem Sound.created (h : c.Sound s full) (advance : Advance s full c c') (kind : PoolKind) :
    c'.stock.count kind = c.stock.count kind + 1 ∧ c'.stock.count kind ≤ target s kind
      ∨ (c'.stock kind).known = (c.stock kind).known ∧ c'.stock.count kind ≤ c.stock.count kind := by
  cases advance with
  | retires i here id =>
    exact .inr ⟨Stock.known_retire .., Stock.count_retire_le ..⟩
  | creates i here missing id at_ unusable =>
    by_cases same : kind = here
    · subst same
      have room := (at_ ▸ h.fits i).resolve_left (Nat.succ_ne_zero missing)
      have more := Stock.count_create unusable
      refine .inl ⟨more, ?_⟩
      show (c.stock.create kind id).count kind ≤ target s kind
      omega
    · exact .inr (by simp [Stock.create_of_ne same, Stock.count])
  | _ => exact .inr ⟨rfl, Nat.le_refl _⟩

theorem Locked.advance (h : c.Locked) (advance : Advance s full c c') : c'.Locked := by
  -- Within a refill, the stage of the holder moves on, and nobody else is at such a stage.
  have moves : ∀ {i : ι} {stage : Stage}, (c.stage i).Holds → stage.Holds →
      ∀ j, (Function.update c.stage i stage j).Holds ↔ c.holder = some j := by
    intro i stage before later
    refine (Function.forall_update_iff c.stage fun j stage => stage.Holds ↔ c.holder = some j).2
      ⟨?_, fun j _ => h j⟩
    simpa [later] using (h i).1 before
  cases advance with
  | rests => exact h
  | retires i kind id here => exact h
  | counts i kind here => exact moves (by simp [here, Stage.Holds]) trivial
  | creates i kind missing id here unusable => exact moves (by simp [here, Stage.Holds]) trivial
  | locks i kind here free =>
    refine (Function.forall_update_iff c.stage fun j stage => stage.Holds ↔ some i = some j).2
      ⟨by simp [Stage.Holds], fun j other => ?_⟩
    simpa [Ne.symm other, free] using h j
  | leaves i kind here =>
    refine (Function.forall_update_iff c.stage fun j stage => stage.Holds ↔ none = some j).2
      ⟨by simp [Stage.not_holds_afterRefill], fun j other => ?_⟩
    have outside : ¬ (c.stage j).Holds := fun theirs =>
      other (h.eq_of_holds (by simp [here, Stage.Holds]) theirs)
    simpa using outside

theorem Sound.fits_advance (h : c.Sound s full) (advance : Advance s full c c') (j : ι) :
    (c'.stage j).Fits s c'.stock.count := by
  -- The stock stays as it is, and one call gets to a new stage.
  have moves : ∀ {i : ι} (stage : Stage), stage.Fits s c.stock.count →
      ∀ j, (Function.update c.stage i stage j).Fits s c.stock.count := fun stage new =>
    (Function.forall_update_iff c.stage fun _ stage => stage.Fits s c.stock.count).2
      ⟨new, fun j _ => h.fits j⟩
  cases advance with
  | rests => exact h.fits j
  | retires i kind id here => exact (h.fits j).mono (Stock.count_retire_le c.stock kind id)
  | locks i kind here free => exact moves (.counting kind) trivial j
  | counts i kind here =>
    refine moves (.creating kind (target s kind - c.stock.count kind)) ?_ j
    simp only [Stage.Fits]
    omega
  | leaves i kind here => exact moves _ (Stage.fits_afterRefill _ _) j
  | creates i kind missing id here unusable =>
    have room := (here ▸ h.fits i).resolve_left (Nat.succ_ne_zero missing)
    have more := Stock.count_create unusable
    refine (Function.forall_update_iff c.stage fun _ stage => stage.Fits s _).2
      ⟨?_, fun j other => ?_⟩ j
    · simp only [Stage.Fits]
      omega
    · -- Another call that creates keys would hold the lock as well.
      cases there : c.stage j with
      | creating kind' missing' =>
        have theirs : (c.stage j).Holds := by simp [there, Stage.Holds]
        exact absurd (h.locked.eq_of_holds (by simp [here, Stage.Holds]) theirs) other
      | _ => trivial

theorem Supplied.advance (h : c.Supplied s full kind) (advance : Advance s full c c') :
    c'.Supplied s full kind := by
  have others : ∀ {i : ι} {stage : Stage}, ∀ j, j ≠ i → Function.update c.stage i stage j = c.stage j :=
    fun j other => Function.update_of_ne other _ _
  cases advance with
  | rests => exact h
  | retires i here id at_ =>
    by_cases same : kind = here
    · subst same
      exact .inl ⟨i, by simp [at_, Stage.Supplies]⟩
    · simpa only [Supplied, Stock.count, Stock.retire_of_ne same] using h
  | locks i here at_ free =>
    refine h.of_stage (Nat.le_refl _) others fun supplies => .inl ?_
    rw [at_] at supplies
    simpa [Stage.Supplies] using supplies
  | counts i here at_ =>
    refine h.of_stage (Nat.le_refl _) others fun supplies => .inl ?_
    rw [at_] at supplies
    simp only [Function.update_self, Stage.Supplies]
    rcases supplies with rfl | ⟨isFull, rfl⟩
    · exact .inl ⟨rfl, by omega⟩
    · cases kind with
      | signing => exact .inl ⟨rfl, by omega⟩
      | encryption => exact .inr ⟨isFull, rfl, rfl⟩
  | leaves i here at_ =>
    refine h.of_stage (Nat.le_refl _) others fun supplies => ?_
    rw [at_] at supplies
    rcases supplies with ⟨rfl, enough⟩ | ⟨isFull, rfl, rfl⟩
    · exact .inr enough
    · exact .inl (by simp [isFull, afterRefill, Stage.Supplies])
  | creates i here missing id at_ unusable =>
    refine h.of_stage (Stock.count_le_create ..) others fun supplies => .inl ?_
    rw [at_] at supplies
    simp only [Function.update_self, Stage.Supplies]
    rcases supplies with ⟨rfl, enough⟩ | later
    · have one := Stock.count_create unusable
      exact .inl ⟨rfl, by omega⟩
    · exact .inr later

/-- What holds of a crew at the beginning holds however it goes on. -/
theorem Sound.advance (h : c.Sound s full) (advance : Advance s full c c') : c'.Sound s full where
  locked := h.locked.advance advance
  fits := h.fits_advance advance
  supplied kind i serves := (h.supplied kind i serves).advance advance

end Crew

end Latchkey

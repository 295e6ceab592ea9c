import Latchkey.Proofs.Schedule.Standing

set_option autoImplicit false

/-! # The registry of a rota

Two things change a registry: a task is listed, or a name is taken out. Of everything that happens
on a rota, only an accepted registration does the one, and only a removal on request or the end of
the background work of a task of one run does the other (`Rota.registry_happen`). Every listed
number is that of a task of the listed name (`Rota.Listed`). So a task is listed no more once its
name was taken out. -/

namespace Latchkey

/-- What changes a registry. -/
inductive RegistryChange
  /-- A task is listed after all others. -/
  | lists (entry : RegistryEntry)
  /-- A name is taken out. -/
  | drops (name : String)
deriving DecidableEq, Repr

namespace Registry

/-- Lets a change take effect. -/
def change (r : Registry) : RegistryChange → Registry
  | .lists entry => ⟨r.entries ++ [entry], entry.name :: r.taken⟩
  | .drops name => r.unregister name

/-- A registration is refused where the name is in use, and otherwise changes the registry. -/
theorem register_eq (r : Registry) (entry : RegistryEntry) :
    r.register entry
      = if r.contains entry.name then .error (.duplicateTask entry.name)
        else .ok (r.change (.lists entry)) := rfl

@[simp] theorem taken_unregister (r : Registry) (name : String) :
    (r.unregister name).taken = r.taken.filter fun taken => taken ≠ name := by
  unfold unregister
  split
  · rfl
  · rename_i free
    refine (List.filter_eq_self.2 ?_).symm
    intro taken mem
    refine decide_eq_true ?_
    rintro rfl
    exact free (List.contains_iff_mem.2 mem)

theorem entries_unregister {r : Registry} (used : ∀ entry ∈ r.entries, entry.name ∈ r.taken)
    (name : String) :
    (r.unregister name).entries = r.entries.filter fun entry => entry.name ≠ name := by
  unfold unregister
  split
  · rfl
  · rename_i free
    refine (List.filter_eq_self.2 ?_).symm
    intro entry mem
    refine decide_eq_true ?_
    rintro rfl
    exact free (List.contains_iff_mem.2 (used entry mem))

end Registry

theorem Task.schedule?_eq_none {α : Type} {t : Task α} : t.schedule? = none ↔ t.duty = .once := by
  unfold Task.schedule?
  split <;> simp [*]

namespace Scheduler

variable {α : Type} {s : Scheduler α} {number : Nat} {t : Task α}

/-- The registration of a task that was built. -/
theorem register_of_task? (found : s.task? number = some t) :
    s.register number
      = if s.registry.contains t.name then (.error (.duplicateTask t.name), s)
        else (.ok (), { s with registry := s.registry.change (.lists ⟨number, t.name⟩) }) := by
  simp only [register, found, Registry.register_eq]
  split
  · rename_i accepted
    split at accepted
    · cases accepted
    · rename_i free
      rw [if_neg free, Except.ok.inj accepted]
  · rename_i refused
    split at refused
    · rename_i used
      rw [if_pos used, Except.error.inj refused]
    · cases refused

theorem registry_settleStep (s : Scheduler α) (number : Nat) (t : Task α) (progress : Progress) :
    (s.settleStep number t progress).registry
      = if progress = .ends ∧ t.schedule? = none then s.registry.unregister t.name
        else s.registry := by
  unfold settleStep
  dsimp only
  split
  · rename_i once
    rw [if_pos ⟨rfl, Task.schedule?_eq_none.2 once⟩]
    rfl
  · rename_i others
    rw [if_neg fun h => others h.1 (Task.schedule?_eq_none.1 h.2)]
    rfl

end Scheduler

namespace Rota

variable {α σ : Type} {perform : Performer α σ} {r : Rota α σ} {e : Happening α} {n : Nat}
  {t : Task α}

/-! ## What changes the registry -/

/-- The task of one run whose background work comes to its end. -/
def finishes? (perform : Performer α σ) (r : Rota α σ) (e : Happening α) : Option Nat :=
  e.deed.worker?.filter fun number =>
    (r.task? number).any (fun t => t.schedule? = none ∧ t.phase ≠ .over)
      ∧ ((r.happen perform e).task? number).any fun t => t.phase = .over

/-- The end of the background work of a task of one run takes the name of the task out. -/
def ending? (perform : Performer α σ) (r : Rota α σ) (e : Happening α) : Option RegistryChange :=
  ((r.finishes? perform e).bind r.task?).map fun t => .drops t.name

/-- What a happening changes in the registry, if it does. -/
def change? (perform : Performer α σ) (r : Rota α σ) (e : Happening α) : Option RegistryChange :=
  match e.deed with
  | .register number =>
    if (r.line.scheduler.register number).1.isOk then
      (r.task? number).map fun t => .lists ⟨number, t.name⟩
    else none
  | .unregister name => some (.drops name)
  | _ => r.ending? perform e

theorem finishes?_eq_some :
    r.finishes? perform e = some n ↔ e.deed.worker? = some n
      ∧ (∃ t, r.task? n = some t ∧ t.duty = .once ∧ t.phase ≠ .over)
      ∧ ∃ t', (r.happen perform e).task? n = some t' ∧ t'.phase = .over := by
  unfold finishes?
  simp only [Option.filter_eq_some_iff, Option.any_eq_true, decide_eq_true_iff,
    Task.schedule?_eq_none]

/-- A step of a task's background work comes to the end of the work or leaves the registry alone. -/
theorem settles_happen (perform : Performer α σ) (works : e.deed.worker? = some n) :
    r.happen perform e = r
      ∨ ∃ t t' progress, r.task? n = some t
        ∧ (r.happen perform e).line.scheduler = r.line.scheduler.settleStep n t' progress
        ∧ (progress = .ends → t.phase ≠ .over ∧ t' = t.finish)
        ∧ (t.duty = .once → t.phase ≠ .over → t'.phase = .over → progress = .ends) := by
  obtain ⟨leads, deed⟩ := e
  cases deed with
  | wake number reading =>
    obtain rfl := Option.some.inj works
    have wakes := wakes_happen perform r leads number reading
    generalize r.happen perform ⟨leads, .wake number reading⟩ = r' at wakes ⊢
    cases wakes with
    | keep => exact .inl rfl
    | @settle t t' progress found step rests =>
      obtain ⟨awake, proceeds⟩ := Task.awake_of_step? step
      rcases Task.proceed_cases r.line.time reading t with
        ⟨-, done⟩ | ⟨-, ⟨caughtUp, delay, done⟩ | ⟨daily, ⟨caughtUp, wake, done⟩ | done⟩⟩
        <;> obtain ⟨rfl, rfl⟩ := Prod.mk.inj (proceeds.symm.trans done)
      · exact .inr ⟨t, _, .ends, found, rfl, fun _ => ⟨awake.unfinished, rfl⟩, fun _ _ _ => rfl⟩
      · exact absurd rfl rests
      · exact .inr ⟨t, _, .quiet, found, rfl, nofun, fun once => absurd once daily⟩
      · exact .inr ⟨t, _, .quiet, found, rfl, nofun, fun _ _ => nofun⟩
    | act found step =>
      obtain ⟨-, caughtUp, delay, rfl⟩ := Task.act_of_proceed (Task.awake_of_step? step).2
      exact .inr ⟨_, _, .acts, found, rfl, nofun, fun _ _ => nofun⟩
    | panic found step => exact .inr ⟨_, _, .quiet, found, rfl, nofun, fun _ _ => nofun⟩
  | resume number =>
    obtain rfl := Option.some.inj works
    rcases happen_resume perform r leads number with same | ⟨t, found, -, made⟩
    · exact .inl same
    rcases Task.actionEnded_cases r.line.time t with
      ⟨-, done⟩ | ⟨acting, ⟨-, done⟩ | ⟨-, daily, wake, done⟩⟩ <;> rw [done] at made
    · exact .inr ⟨t, t, .quiet, found, congrArg (·.line.scheduler) made, nofun,
        fun _ going ended => absurd ended going⟩
    · exact .inr ⟨t, _, .ends, found, congrArg (·.line.scheduler) made,
        fun _ => ⟨acting.unfinished, rfl⟩, fun _ _ _ => rfl⟩
    · exact .inr ⟨t, _, .quiet, found, congrArg (·.line.scheduler) made, nofun,
        fun once => absurd once daily⟩
  | _ => cases works

/-- The end of the background work of a task of one run takes the task's name out; no other step of
    background work changes the registry. -/
theorem registry_works (perform : Performer α σ) (works : e.deed.worker? = some n) :
    (r.happen perform e).line.scheduler.registry
      = (r.ending? perform e).toList.foldl Registry.change r.line.scheduler.registry := by
  have only : ∀ m, r.finishes? perform e = some m → m = n := by
    intro m finishes
    exact Option.some.inj ((finishes?_eq_some.1 finishes).1.symm.trans works)
  rcases settles_happen perform works with same | ⟨t, t', progress, found, settled, ends, last⟩
  · have unfinished : r.finishes? perform e = none := by
      refine Option.eq_none_iff_forall_ne_some.2 ?_
      intro m finishes
      obtain ⟨-, ⟨t, found, -, going⟩, t', found', ended⟩ := finishes?_eq_some.1 finishes
      rw [same, found] at found'
      exact going (Option.some.inj found' ▸ ended)
    rw [ending?, unfinished, same]
    rfl
  · have after : (r.happen perform e).task? n = some t' := by
      rw [task?, settled, Scheduler.task?_settleStep, if_pos rfl,
        show r.line.scheduler.task? n = some t from found, Option.map_some]
    rw [settled, Scheduler.registry_settleStep]
    by_cases finished : progress = .ends ∧ t'.schedule? = none
    · obtain ⟨going, rfl⟩ := ends finished.1
      have once : t.duty = .once := Task.schedule?_eq_none.1 finished.2
      have finishes : r.finishes? perform e = some n :=
        finishes?_eq_some.2 ⟨works, ⟨t, found, once, going⟩, _, after, rfl⟩
      rw [if_pos finished, ending?, finishes, Option.bind_some, found]
      rfl
    · have unfinished : r.finishes? perform e = none := by
        refine Option.eq_none_iff_forall_ne_some.2 ?_
        intro m finishes
        obtain rfl := only m finishes
        obtain ⟨-, ⟨t₀, found₀, once, going⟩, t₁, found₁, ended⟩ := finishes?_eq_some.1 finishes
        obtain rfl := Option.some.inj (found₀.symm.trans found)
        obtain rfl := Option.some.inj (found₁.symm.trans after)
        have finishing := last once going ended
        obtain ⟨-, rfl⟩ := ends finishing
        exact finished ⟨finishing, Task.schedule?_eq_none.2 once⟩
      rw [if_neg finished, ending?, unfinished]
      rfl

theorem registry_foldl_stop (s : Scheduler α) (numbers : List Nat) :
    (numbers.foldl Scheduler.stop s).registry = s.registry :=
  List.foldlRecOn numbers Scheduler.stop
    (motive := fun s' : Scheduler α => s'.registry = s.registry) rfl fun _ same _ _ => same

theorem registry_happen (perform : Performer α σ) (r : Rota α σ) (e : Happening α) :
    (r.happen perform e).line.scheduler.registry
      = (r.change? perform e).toList.foldl Registry.change r.line.scheduler.registry := by
  obtain ⟨leads, deed⟩ := e
  cases deed with
  | register number =>
    show (r.line.scheduler.register number).2.registry = _
    simp only [change?, task?]
    cases found : r.line.scheduler.task? number with
    | none =>
      simp only [Scheduler.register, found]
      split <;> rfl
    | some t =>
      rw [Scheduler.register_of_task? found]
      split <;> rfl
  | wake number reading => exact registry_works perform rfl
  | resume number => exact registry_works perform rfl
  | stopNamed name =>
    show (r.line.scheduler.stopNamed name).2.registry = _
    rw [Scheduler.stopNamed_eq]
    exact registry_foldl_stop _ _
  | stopAll => exact registry_foldl_stop _ _
  | land flight =>
    simp only [happen]
    split <;> rfl
  | evaluate number reading =>
    simp only [happen]
    split
    · rename_i decision s' evaluated
      obtain ⟨t, caughtUp, -, rfl⟩ := Scheduler.evaluate_eq_some evaluated
      rfl
    · rfl
  | turn round =>
    simp only [happen]
    split
    · unfold schedule Scheduler.startIfLeading
      dsimp only
      split <;> rfl
    · rfl
  | _ => rfl

/-! ## What is listed -/

/-- Every listed number is that of a task of the listed name, and the name is in use. -/
def Listed (r : Rota α σ) : Prop :=
  ∀ entry ∈ r.line.scheduler.registry.entries,
    entry.name ∈ r.line.scheduler.registry.taken
      ∧ ∃ t, r.task? entry.number = some t ∧ t.name = entry.name

theorem lists_of_change? {entry : RegistryEntry}
    (lists : r.change? perform e = some (.lists entry)) :
    ∃ t, r.task? entry.number = some t ∧ t.name = entry.name := by
  obtain ⟨leads, deed⟩ := e
  cases deed with
  | register number =>
    obtain ⟨-, lists⟩ := Option.ite_none_right_eq_some.1 lists
    obtain ⟨t, found, listed⟩ := Option.map_eq_some_iff.1 lists
    obtain rfl := RegistryChange.lists.inj listed
    exact ⟨t, found, rfl⟩
  | wake | resume =>
    obtain ⟨t, -, drops⟩ := Option.map_eq_some_iff.1 lists
    cases drops
  | unregister => cases lists
  | _ => cases lists

theorem listed_happen (perform : Performer α σ) (e : Happening α) (listed : r.Listed) :
    (r.happen perform e).Listed := by
  have known : ∀ number t name, r.task? number = some t → t.name = name →
      ∃ t', (r.happen perform e).task? number = some t' ∧ t'.name = name := by
    intro number t name found same
    obtain ⟨t', found', keeps, -⟩ := goes_happen perform e found
    exact ⟨t', found', keeps.name.trans same⟩
  have stays : ∀ entry ∈ r.line.scheduler.registry.entries,
      ∃ t', (r.happen perform e).task? entry.number = some t' ∧ t'.name = entry.name := by
    intro entry mem
    obtain ⟨-, t, found, same⟩ := listed entry mem
    exact known _ t _ found same
  have used : ∀ entry ∈ r.line.scheduler.registry.entries,
      entry.name ∈ r.line.scheduler.registry.taken := fun entry mem => (listed entry mem).1
  intro entry mem
  rw [registry_happen] at mem ⊢
  cases changed : r.change? perform e with
  | none =>
    rw [changed] at mem
    exact ⟨(listed entry mem).1, stays entry mem⟩
  | some change =>
    rw [changed] at mem
    cases change with
    | lists added =>
      rcases List.mem_append.1 mem with mem | mem
      · exact ⟨List.mem_cons_of_mem _ (listed entry mem).1, stays entry mem⟩
      · obtain rfl := List.mem_singleton.1 mem
        obtain ⟨t, found, same⟩ := lists_of_change? changed
        exact ⟨List.mem_cons_self, known _ t _ found same⟩
    | drops name =>
      change entry ∈ (r.line.scheduler.registry.unregister name).entries at mem
      rw [Registry.entries_unregister used] at mem
      obtain ⟨mem, other⟩ := List.mem_filter.1 mem
      refine ⟨?_, stays entry mem⟩
      show entry.name ∈ (r.line.scheduler.registry.unregister name).taken
      rw [Registry.taken_unregister]
      exact List.mem_filter.2 ⟨used entry mem, other⟩

theorem listed_after (perform : Performer α σ) (history : List (Happening α))
    (listed : r.Listed) : (r.after perform history).Listed := by
  induction history generalizing r with
  | nil => exact listed
  | cons e later ih => exact ih (listed_happen perform e listed)

/-- Where a name was taken out of the registry, no task of that name is listed. -/
theorem not_lists_of_unregister (listed : r.Listed) {r' : Rota α σ} (listed' : r'.Listed)
    (found : r'.task? n = some t)
    (less : r'.line.scheduler.registry = r.line.scheduler.registry.unregister t.name) :
    ¬ r'.Lists n t.name := by
  have gone : ∀ entry ∈ r'.line.scheduler.registry.entries, entry.name ≠ t.name := by
    intro entry mem
    rw [less, Registry.entries_unregister fun entry mem => (listed entry mem).1] at mem
    exact of_decide_eq_true (List.mem_filter.1 mem).2
  rintro (⟨entry, mem, here | here⟩ | used)
  · obtain ⟨-, t', found', same⟩ := listed' entry mem
    rw [here, found] at found'
    obtain rfl := Option.some.inj found'
    exact gone entry mem same.symm
  · exact gone entry mem here
  · have used := List.contains_iff_mem.1 used
    rw [less, Registry.taken_unregister] at used
    exact of_decide_eq_true (List.mem_filter.1 used).2 rfl

end Rota

end Latchkey

import Latchkey.Proofs.Schedule.Directory

set_option autoImplicit false

/-! # The end of a task that runs once

The background work of a task that runs once takes a name out of the registry, not a task. Where it
comes to its end, the other listed tasks stay listed if and only if none of them has the name of the
task that ends. A name can have come to another task in the meantime
(`Rota.takes_out_other_task_of_name`). That does not happen in an orderly history, where tasks are
launched while they are listed and no name is taken out while its task is at work: there the task
that ends was listed and is the only one to leave. -/

namespace Latchkey

/-- A task that runs once was launched and has not come to its end. -/
structure Task.AtWork {α : Type} (t : Task α) : Prop where
  once : t.duty = .once
  launched : t.phase ≠ .idle
  going : ¬ t.Gone

namespace Rota

variable {α σ : Type} {perform : Performer α σ} {r : Rota α σ} {e : Happening α} {n : Nat}
  {t : Task α} {entry : RegistryEntry}

/-- The listed tasks. -/
def entries (r : Rota α σ) : List RegistryEntry :=
  r.line.scheduler.registry.entries

/-! ## Who leaves -/

/-- A name is taken out on request, or by the end of a task of that name. -/
theorem drops_iff {name : String} :
    r.change? perform e = some (.drops name) ↔ e.deed = .unregister name
      ∨ ∃ n t, r.finishes? perform e = some n ∧ r.task? n = some t ∧ t.name = name := by
  have ends : r.ending? perform e = some (.drops name)
      ↔ ∃ n t, r.finishes? perform e = some n ∧ r.task? n = some t ∧ t.name = name := by
    simp only [ending?, Option.map_eq_some_iff, Option.bind_eq_some_iff, RegistryChange.drops.injEq]
    grind
  obtain ⟨leads, deed⟩ := e
  cases deed with
  | register number =>
    constructor
    · intro drops
      obtain ⟨-, lists⟩ := Option.ite_none_right_eq_some.1 drops
      obtain ⟨t, -, different⟩ := Option.map_eq_some_iff.1 lists
      cases different
    · rintro (other | ⟨n, t, finishes, -⟩)
      · cases other
      · cases finishes
  | unregister taken =>
    constructor
    · intro drops
      obtain rfl := RegistryChange.drops.inj (Option.some.inj drops)
      exact .inl rfl
    · rintro (same | ⟨n, t, finishes, -⟩)
      · obtain rfl := Deed.unregister.inj same
        rfl
      · cases finishes
  | _ => exact ends.trans ⟨.inr, fun drops => drops.resolve_left nofun⟩

/-- Only a task at work comes to its end. -/
theorem atWork_of_finishes (finishes : r.finishes? perform e = some n)
    (found : r.task? n = some t) : t.AtWork := by
  obtain ⟨works, ⟨t₀, found₀, once, going⟩, t', found', ended⟩ := finishes?_eq_some.1 finishes
  obtain rfl := Option.some.inj (found.symm.trans found₀)
  have work : (r.watch n).Work ((r.happen perform e).watch n) := works_happen works
  refine ⟨once, ?_, ?_⟩
  · intro idle
    have asleep : ∀ t₀, (r.watch n).task? = some t₀ → t₀.phase = .idle := by
      intro t₀ found₀
      obtain rfl := Option.some.inj (found.symm.trans found₀)
      exact idle
    cases ended.symm.trans (work.idle asleep found')
  · intro gone
    have same := congrArg Watch.task? (work.eq_of_gone found gone)
    obtain rfl := Option.some.inj (found'.symm.trans (same.trans found))
    exact going ended

/-- A task leaves the list by its name only. -/
theorem drops_of_leaves (consistent : r.line.scheduler.registry.Consistent)
    (mem : entry ∈ r.entries) (leaves : entry ∉ (r.happen perform e).entries) :
    r.change? perform e = some (.drops entry.name) := by
  unfold entries at mem leaves
  rw [registry_happen] at leaves
  cases changed : r.change? perform e with
  | none =>
    rw [changed] at leaves
    exact absurd mem leaves
  | some change =>
    rw [changed] at leaves
    cases change with
    | lists added => exact absurd (List.mem_append_left _ mem) leaves
    | drops name =>
      change entry ∉ (r.line.scheduler.registry.unregister name).entries at leaves
      rw [Registry.entries_unregister consistent.used] at leaves
      by_cases here : entry.name = name
      · rw [here]
      · exact absurd (List.mem_filter.2 ⟨mem, decide_eq_true here⟩) leaves

/-- The end of a task that runs once leaves the tasks of other names. -/
theorem entries_of_finishes (consistent : r.line.scheduler.registry.Consistent)
    (finishes : r.finishes? perform e = some n) (found : r.task? n = some t) :
    (r.happen perform e).entries = r.entries.filter fun entry => entry.name ≠ t.name := by
  have change := drops_iff.2 (.inr ⟨n, t, finishes, found, rfl⟩)
  unfold entries
  rw [registry_happen, change]
  exact Registry.entries_unregister consistent.used t.name

/-! ## Orderly histories -/

/-- Tasks are launched while they are listed, and no name is taken out on request while a task of
    that name is at work. -/
def Orderly (perform : Performer α σ) : Rota α σ → List (Happening α) → Prop
  | _, [] => True
  | r, e :: later =>
    (∀ n, r.launch? e = some n → ∃ entry ∈ r.entries, entry.number = n)
      ∧ (∀ n t, r.task? n = some t → t.AtWork → e.deed ≠ .unregister t.name)
      ∧ Orderly perform (r.happen perform e) later

/-- Where nobody calls a task to start or takes a name out, nothing has to be in order. -/
theorem orderly_cons {later : List (Happening α)} (quiet : r.called? e = none)
    (keeps : ∀ name, e.deed ≠ .unregister name)
    (rest : (r.happen perform e).Orderly perform later) : r.Orderly perform (e :: later) := by
  refine ⟨?_, fun _ t _ _ => keeps t.name, rest⟩
  intro n launch
  cases quiet.symm.trans (launch?_eq_some.1 launch).1

/-- Every task at work is listed. -/
def ListsWork (r : Rota α σ) : Prop :=
  ∀ n t, r.task? n = some t → t.AtWork → ⟨n, t.name⟩ ∈ r.entries

/-- A task at work was at work before, or is launched. -/
theorem atWork_happen {t' : Task α} (found' : (r.happen perform e).task? n = some t')
    (atWork : t'.AtWork) :
    ∃ t, r.task? n = some t ∧ t.name = t'.name ∧ (t.AtWork ∨ r.launch? e = some n) := by
  cases found : r.task? n with
  | none =>
    have idle : ∀ t, (r.watch n).task? = some t → t.phase = .idle := by
      intro t found₀
      cases found.symm.trans found₀
    rcases concerns_happen perform r e n with launch | ⟨-, call⟩ | work
    · obtain ⟨t, found₀, -⟩ := watch_of_launch perform launch
      cases found.symm.trans found₀
    · exact absurd (call.idle idle found') atWork.launched
    · exact absurd (work.idle idle found') atWork.launched
  | some t =>
    obtain ⟨t'', found'', keeps, -⟩ := goes_happen perform e found
    obtain rfl := Option.some.inj (found''.symm.trans found')
    refine ⟨t, rfl, keeps.name.symm, ?_⟩
    have once : t.duty = .once := keeps.duty.symm.trans atWork.once
    rcases concerns_happen perform r e n with launch | ⟨-, call⟩ | work
    · exact .inr launch
    · have phase := call.phase_eq found found'
      have gone : t''.Gone ↔ t.Gone := by rw [Task.Gone, Task.Gone, phase]
      exact .inl ⟨once, phase ▸ atWork.launched, atWork.going ∘ gone.2⟩
    · refine .inl ⟨once, ?_, ?_⟩
      · intro idle
        refine atWork.launched (work.idle ?_ found')
        intro t₀ found₀
        obtain rfl := Option.some.inj (found.symm.trans found₀)
        exact idle
      · intro gone
        have same := congrArg Watch.task? (work.eq_of_gone found gone)
        obtain rfl := Option.some.inj (found.symm.trans (same.symm.trans found'))
        exact atWork.going gone

theorem listsWork_happen (consistent : r.line.scheduler.registry.Consistent) (known : r.Listed)
    (launches : ∀ n, r.launch? e = some n → ∃ entry ∈ r.entries, entry.number = n)
    (keeps : ∀ n t, r.task? n = some t → t.AtWork → e.deed ≠ .unregister t.name)
    (works : r.ListsWork) : (r.happen perform e).ListsWork := by
  intro n t' found' atWork
  obtain ⟨t, found, name, before⟩ := atWork_happen found' atWork
  have mem : ⟨n, t.name⟩ ∈ r.entries := by
    rcases before with working | launch
    · exact works n t found working
    · obtain ⟨entry, mem, rfl⟩ := launches n launch
      obtain ⟨-, t₀, found₀, same⟩ := known entry mem
      obtain rfl := Option.some.inj (found.symm.trans found₀)
      rw [same]
      exact mem
  rw [← name]
  by_contra leaves
  -- Only its own end takes out a task at work, and it has not come to that.
  rcases drops_iff.1 (drops_of_leaves consistent mem leaves) with
    taken | ⟨m, t₀, finishes, found₀, same⟩
  · rcases before with working | launch
    · exact keeps n t found working taken
    · have called := (launch?_eq_some.1 launch).1
      rw [called?, taken] at called
      cases called
  · have listed := works m t₀ found₀ (atWork_of_finishes finishes found₀)
    obtain ⟨-, -, t₁, found₁, ended⟩ := finishes?_eq_some.1 finishes
    obtain ⟨rfl, -⟩ := RegistryEntry.mk.inj
      (List.inj_on_of_nodup_map consistent.distinct listed mem same)
    obtain rfl := Option.some.inj (found₁.symm.trans found')
    exact atWork.going (.inl ended)

theorem listsWork_after (perform : Performer α σ) (history : List (Happening α))
    {before : List RegistryChange} (directs : r.Directs before) (known : r.Listed)
    (orderly : r.Orderly perform history) (works : r.ListsWork) :
    (r.after perform history).ListsWork := by
  induction history generalizing r before with
  | nil => exact works
  | cons e later ih =>
    obtain ⟨launches, keeps, rest⟩ := orderly
    exact ih (directs_happen perform e directs) (listed_happen perform e known) rest
      (listsWork_happen directs.consistent known launches keeps works)

/-! ## The end of a task -/

/-- Whatever happened before: where a task that runs once comes to its end, the listed tasks of its
    name leave and no others. So every other task stays listed if and only if none of them has its
    name, and after an orderly history the task itself was listed and is the only one to leave. No
    task leaves but by a request for its name or by the end of a task of its name. -/
theorem ends_take_out_by_name (perform : Performer α σ) (start : Instant) (world : σ)
    (history : List (Happening α)) (e : Happening α) :
    let opening : Rota α σ := .opening start world
    let r := opening.after perform history
    let r' := r.happen perform e
    (∀ n t, r.finishes? perform e = some n → r.task? n = some t →
      r'.entries = r.entries.filter (fun entry => entry.name ≠ t.name)
      ∧ ((∀ entry ∈ r.entries, entry.number ≠ n → entry ∈ r'.entries)
        ↔ ∀ entry ∈ r.entries, entry.name = t.name → entry.number = n)
      ∧ (opening.Orderly perform history →
        ⟨n, t.name⟩ ∈ r.entries ∧ ∀ entry ∈ r.entries, entry ∈ r'.entries ↔ entry.number ≠ n))
    ∧ ∀ entry ∈ r.entries, entry ∉ r'.entries →
      e.deed = .unregister entry.name
        ∨ ∃ n t, r.finishes? perform e = some n ∧ r.task? n = some t ∧ t.name = entry.name := by
  intro opening r r'
  have directs : r.Directs _ := directs_after perform history (directs_opening start world)
  have consistent := directs.consistent
  have known : r.Listed := listed_after perform history (by nofun)
  refine ⟨?_, ?_⟩
  · intro n t finishes found
    have entries : r'.entries = r.entries.filter fun entry => entry.name ≠ t.name :=
      entries_of_finishes consistent finishes found
    have stays : ∀ entry ∈ r.entries, entry ∈ r'.entries ↔ entry.name ≠ t.name := by
      intro entry mem
      rw [entries, List.mem_filter, decide_eq_true_iff]
      exact and_iff_right mem
    refine ⟨entries, ?_, ?_⟩
    · constructor
      · intro others entry mem same
        by_contra other
        exact (stays entry mem).1 (others entry mem other) same
      · intro alone entry mem other
        exact (stays entry mem).2 fun same => other (alone entry mem same)
    · intro orderly
      have works : r.ListsWork :=
        listsWork_after perform history (directs_opening start world) (by nofun) orderly (by nofun)
      have mem := works n t found (atWork_of_finishes finishes found)
      refine ⟨mem, ?_⟩
      intro entry mem'
      rw [stays entry mem']
      refine not_congr ⟨?_, ?_⟩
      · intro same
        rw [List.inj_on_of_nodup_map consistent.distinct mem' mem same]
      · rintro rfl
        obtain ⟨-, t₀, found₀, same⟩ := known entry mem'
        obtain rfl := Option.some.inj (found.symm.trans found₀)
        exact same.symm
  · intro entry mem leaves
    exact drops_iff.1 (drops_of_leaves consistent mem leaves)

/-- A task is started, its name is taken out while it runs, and another task is listed under the
    name. The end of the first task takes out the second one, which has not run. -/
theorem takes_out_other_task_of_name :
    let perform : Performer Nat Unit := fun millis _ _ world => (some ⟨millis, true⟩, world)
    let history : List (Happening Nat) :=
      [⟨true, .build "job" .once 1000⟩, ⟨true, .register 0⟩, ⟨true, .runAll⟩, ⟨true, .turn 0⟩,
        ⟨true, .wake 0 ⟨7200, 0⟩⟩, ⟨true, .unregister "job"⟩, ⟨true, .build "job" .once 0⟩,
        ⟨true, .register 1⟩, ⟨true, .pass 1000⟩, ⟨true, .land ⟨0, 0, 1000, true⟩⟩]
    let r := (Rota.opening ⟨7200, 0⟩ ()).after perform history
    let r' := r.happen perform ⟨true, .resume 0⟩
    r.finishes? perform ⟨true, .resume 0⟩ = some 0
      ∧ ⟨1, "job"⟩ ∈ r.entries ∧ ⟨1, "job"⟩ ∉ r'.entries
      ∧ (r'.task? 1).map (·.state) = some .registered := by
  decide +kernel

/-- A task that is started while it is listed, and whose name nobody takes out, leaves alone. -/
theorem leaves_alone_in_orderly_history :
    let perform : Performer Nat Unit := fun millis _ _ world => (some ⟨millis, true⟩, world)
    let history : List (Happening Nat) :=
      [⟨true, .build "seed" .once 0⟩, ⟨true, .register 0⟩, ⟨true, .build "job" .once 0⟩,
        ⟨true, .register 1⟩, ⟨true, .start 0⟩, ⟨true, .wake 0 ⟨7200, 0⟩⟩,
        ⟨true, .land ⟨0, 0, 0, true⟩⟩]
    let opening : Rota Nat Unit := .opening ⟨7200, 0⟩ ()
    let r := opening.after perform history
    let r' := r.happen perform ⟨true, .resume 0⟩
    opening.Orderly perform history
      ∧ r.finishes? perform ⟨true, .resume 0⟩ = some 0
      ∧ ⟨0, "seed"⟩ ∈ r.entries ∧ ⟨0, "seed"⟩ ∉ r'.entries ∧ ⟨1, "job"⟩ ∈ r'.entries := by
  intro perform history opening r r'
  have orderly : opening.Orderly perform history := by
    refine orderly_cons rfl nofun (orderly_cons rfl nofun (orderly_cons rfl nofun
      (orderly_cons rfl nofun ⟨?listed, ?kept,
        orderly_cons rfl nofun (orderly_cons rfl nofun trivial)⟩)))
    case listed =>
      intro n launch
      have called := (launch?_eq_some.1 launch).1
      exact ⟨⟨0, "seed"⟩, by decide +kernel, Option.some.inj called⟩
    case kept =>
      intro n t found atWork
      nofun
  have finishes : r.finishes? perform ⟨true, .resume 0⟩ = some 0 := by decide +kernel
  obtain ⟨seed, found⟩ := Option.isSome_iff_exists.1
    (show (r.task? 0).isSome = true by decide +kernel)
  obtain ⟨ends, -⟩ := ends_take_out_by_name perform ⟨7200, 0⟩ () history ⟨true, .resume 0⟩
  obtain ⟨-, -, alone⟩ := ends 0 seed finishes found
  obtain ⟨-, leaves⟩ := alone orderly
  refine ⟨orderly, finishes, by decide +kernel, ?_, ?_⟩
  · intro stays
    exact (leaves ⟨0, "seed"⟩ (by decide +kernel)).1 stays rfl
  · exact (leaves ⟨1, "job"⟩ (by decide +kernel)).2 (by decide)

end Rota

end Latchkey

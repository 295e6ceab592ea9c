import Latchkey.Proofs.Schedule.Listing
import Mathlib.Data.List.Nodup

set_option autoImplicit false

/-! # The directory of tasks

The registry keeps the names in use twice, as the names of its list and apart from it. Callers and
the background work of tasks change both, in any order. Both always hold the same names, each once
(`Registry.Consistent`), and the list holds the accepted registrations that nothing took out since,
in their order (`RegistryChange.left`). So the answers to all questions about a name agree with each
other (`Rota.directory_agrees`). -/

namespace Latchkey

/-! ## Registrations that are left -/

namespace RegistryChange

/-- The registrations that no later change takes out, in their order. -/
def left : List RegistryChange → List RegistryEntry
  | [] => []
  | .lists entry :: later =>
    if .drops entry.name ∈ later then left later else entry :: left later
  | .drops _ :: later => left later

theorem left_concat_lists (changes : List RegistryChange) (entry : RegistryEntry) :
    left (changes ++ [.lists entry]) = left changes ++ [entry] := by
  induction changes with
  | nil => rfl
  | cons change later ih =>
    cases change with
    | lists first =>
      have same : RegistryChange.drops first.name ∈ later ++ [.lists entry]
          ↔ .drops first.name ∈ later := by simp
      simp only [List.cons_append, left, ih, same]
      split <;> rfl
    | drops name => exact ih

theorem left_concat_drops (changes : List RegistryChange) (name : String) :
    left (changes ++ [.drops name]) = (left changes).filter fun entry => entry.name ≠ name := by
  induction changes with
  | nil => rfl
  | cons change later ih =>
    cases change with
    | lists first =>
      have same : RegistryChange.drops first.name ∈ later ++ [.drops name]
          ↔ .drops first.name ∈ later ∨ first.name = name := by simp
      simp only [List.cons_append, left, ih, same]
      by_cases dropped : RegistryChange.drops first.name ∈ later
      · rw [if_pos dropped, if_pos (.inl dropped)]
      · by_cases here : first.name = name
        · rw [if_pos (.inr here), if_neg dropped, List.filter_cons_of_neg (by simpa using here)]
        · rw [if_neg (by simp [dropped, here]), if_neg dropped,
            List.filter_cons_of_pos (by simpa using here)]
    | drops other => exact ih

end RegistryChange

/-! ## Consistent registries -/

namespace Registry

/-- The names in use are the listed ones, and none is listed twice. -/
structure Consistent (r : Registry) : Prop where
  taken : r.taken.Perm r.names
  distinct : r.names.Nodup

namespace Consistent

variable {r : Registry} {entry : RegistryEntry}

theorem contains_iff (consistent : r.Consistent) (name : String) :
    r.contains name = true ↔ name ∈ r.names := by
  rw [contains, List.contains_iff_mem]
  exact consistent.taken.mem_iff

theorem used (consistent : r.Consistent) : ∀ entry ∈ r.entries, entry.name ∈ r.taken := by
  intro entry mem
  exact consistent.taken.mem_iff.2 (List.mem_map_of_mem mem)

theorem lists (consistent : r.Consistent) (free : r.contains entry.name = false) :
    (r.change (.lists entry)).Consistent := by
  have unlisted : entry.name ∉ r.names := by
    intro listed
    rw [(consistent.contains_iff _).2 listed] at free
    cases free
  have names : (r.change (.lists entry)).names = r.names ++ [entry.name] := List.map_append
  refine ⟨?_, ?_⟩
  · rw [names]
    exact (consistent.taken.cons _).trans (List.perm_append_singleton _ _).symm
  · rw [names]
    exact List.nodup_append_comm.1 (List.nodup_cons.2 ⟨unlisted, consistent.distinct⟩)

theorem drops (consistent : r.Consistent) (name : String) :
    (r.change (.drops name)).Consistent := by
  have names : (r.change (.drops name)).names = r.names.filter fun listed => listed ≠ name := by
    show (r.unregister name).entries.map _ = _
    rw [entries_unregister consistent.used, names, List.filter_map]
    rfl
  refine ⟨?_, ?_⟩
  · show (r.unregister name).taken.Perm _
    rw [names, taken_unregister]
    exact consistent.taken.filter _
  · rw [names]
    exact consistent.distinct.filter _

/-- A search for a name finds the one task that is listed under it. -/
theorem find?_eq_some_iff (consistent : r.Consistent) {name : String} {number : Nat} :
    r.find? name = some number ↔ ⟨number, name⟩ ∈ r.entries := by
  unfold find?
  rw [Option.map_eq_some_iff]
  constructor
  · rintro ⟨entry, found, rfl⟩
    obtain rfl : entry.name = name := by simpa using List.find?_some found
    exact List.mem_of_find?_eq_some found
  · intro mem
    cases found : r.entries.find? fun entry => entry.name = name with
    | none => simpa using List.find?_eq_none.1 found _ mem
    | some entry =>
      have same : entry.name = name := by simpa using List.find?_some found
      obtain rfl := List.inj_on_of_nodup_map consistent.distinct
        (List.mem_of_find?_eq_some found) mem same
      exact ⟨_, rfl, rfl⟩

theorem isSome_find?_iff (consistent : r.Consistent) (name : String) :
    (r.find? name).isSome = true ↔ name ∈ r.names := by
  rw [Option.isSome_iff_exists, names, List.mem_map]
  constructor
  · rintro ⟨number, found⟩
    exact ⟨_, consistent.find?_eq_some_iff.1 found, rfl⟩
  · rintro ⟨entry, mem, rfl⟩
    exact ⟨entry.number, consistent.find?_eq_some_iff.2 mem⟩

end Consistent

end Registry

/-! ## Answers about a name -/

namespace Scheduler

variable {α : Type} {s : Scheduler α}

theorem remove_fst (consistent : s.registry.Consistent) (name : String) :
    (s.remove name).1 = decide (name ∈ s.registry.names) :=
  Bool.eq_iff_iff.2 ((consistent.contains_iff name).trans decide_eq_true_iff.symm)

theorem stopNamed_fst (consistent : s.registry.Consistent) (name : String) :
    (s.stopNamed name).1
      = if name ∈ s.registry.names then .ok () else .error (.notFound "ScheduledTask" name) := by
  have iff := consistent.isSome_find?_iff name
  unfold stopNamed
  cases found : s.registry.find? name with
  | some number =>
    rw [found] at iff
    rw [if_pos (iff.1 rfl)]
  | none =>
    rw [found] at iff
    rw [if_neg fun listed => Bool.noConfusion (iff.2 listed)]
    rfl

theorem register_eq_of_task? (consistent : s.registry.Consistent) {number : Nat} {t : Task α}
    (found : s.task? number = some t) :
    s.register number
      = if t.name ∈ s.registry.names then (.error (.duplicateTask t.name), s)
        else (.ok (), { s with registry := s.registry.change (.lists ⟨number, t.name⟩) }) := by
  rw [register_of_task? found]
  simp only [consistent.contains_iff]

end Scheduler

/-! ## Histories -/

namespace Rota

variable {α σ : Type} {perform : Performer α σ} {r : Rota α σ} {e : Happening α}
  {before : List RegistryChange}

/-- What a history changes in the registry, in order. -/
def changes (perform : Performer α σ) : Rota α σ → List (Happening α) → List RegistryChange
  | _, [] => []
  | r, e :: later => (r.change? perform e).toList ++ changes perform (r.happen perform e) later

/-- The registry is consistent, and lists what the changes have left. -/
structure Directs (r : Rota α σ) (changes : List RegistryChange) : Prop where
  consistent : r.line.scheduler.registry.Consistent
  entries : r.line.scheduler.registry.entries = RegistryChange.left changes

/-- A task is listed under a free name only. -/
theorem free_of_change? {entry : RegistryEntry}
    (lists : r.change? perform e = some (.lists entry)) :
    r.line.scheduler.registry.contains entry.name = false := by
  obtain ⟨leads, deed⟩ := e
  cases deed with
  | register number =>
    obtain ⟨accepted, lists⟩ := Option.ite_none_right_eq_some.1 lists
    obtain ⟨t, found, listed⟩ := Option.map_eq_some_iff.1 lists
    obtain rfl := RegistryChange.lists.inj listed
    rw [Scheduler.register_of_task? found] at accepted
    refine Bool.eq_false_iff.2 ?_
    intro used
    rw [if_pos used] at accepted
    cases accepted
  | wake | resume =>
    obtain ⟨t, -, drops⟩ := Option.map_eq_some_iff.1 lists
    cases drops
  | unregister => cases lists
  | _ => cases lists

theorem directs_happen (perform : Performer α σ) (e : Happening α) (directs : r.Directs before) :
    (r.happen perform e).Directs (before ++ (r.change? perform e).toList) := by
  have registry := registry_happen perform r e
  cases changed : r.change? perform e with
  | none =>
    rw [changed] at registry
    rw [Option.toList_none, List.append_nil]
    exact ⟨registry ▸ directs.consistent, registry ▸ directs.entries⟩
  | some change =>
    rw [changed] at registry
    refine ⟨?_, ?_⟩
    · rw [registry]
      cases change with
      | lists entry => exact directs.consistent.lists (free_of_change? changed)
      | drops name => exact directs.consistent.drops name
    · rw [registry, Option.toList_some]
      cases change with
      | lists entry =>
        rw [RegistryChange.left_concat_lists, ← directs.entries]
        rfl
      | drops name =>
        rw [RegistryChange.left_concat_drops, ← directs.entries]
        exact Registry.entries_unregister directs.consistent.used name

theorem directs_after (perform : Performer α σ) (history : List (Happening α))
    (directs : r.Directs before) :
    (r.after perform history).Directs (before ++ r.changes perform history) := by
  induction history generalizing r before with
  | nil =>
    rw [Rota.changes, List.append_nil]
    exact directs
  | cons e later ih =>
    rw [Rota.changes, ← List.append_assoc]
    exact ih (directs_happen perform e directs)

theorem directs_opening (start : Instant) (world : σ) :
    (opening start world : Rota α σ).Directs [] :=
  ⟨⟨.nil, .nil⟩, rfl⟩

/-- Whatever happens, and in whatever order: the names in use are the listed names, no two listed
    tasks share a name, and the list is that of the registrations that are left, in their order. So
    whether a name is in use, the state of its task, the names and their number agree with each
    other. A registration is refused, and changes nothing, where the name of the task is listed, and
    otherwise accepted; a removal answers whether the name was listed, and a stop fails where it is
    not. -/
theorem directory_agrees (perform : Performer α σ) (start : Instant) (world : σ)
    (history : List (Happening α)) :
    let opening : Rota α σ := .opening start world
    let s := (opening.after perform history).line.scheduler
    (s.registry.taken.Perm s.registry.names
        ∧ s.registry.names.Nodup
        ∧ s.registry.entries = RegistryChange.left (opening.changes perform history))
      ∧ (s.registry.size = s.registry.names.length ∧ s.registry.size = s.registry.taken.length)
      ∧ (∀ name,
        (s.registry.contains name = true ↔ name ∈ s.registry.names)
        ∧ ((s.state? name).isSome = true ↔ name ∈ s.registry.names)
        ∧ (∀ number, ⟨number, name⟩ ∈ s.registry.entries →
          ∃ t, s.task? number = some t ∧ t.name = name ∧ s.state? name = some t.state)
        ∧ (s.remove name).1 = decide (name ∈ s.registry.names)
        ∧ (s.stopNamed name).1
          = if name ∈ s.registry.names then .ok () else .error (.notFound "ScheduledTask" name))
      ∧ ∀ number t, s.task? number = some t →
        s.register number
          = if t.name ∈ s.registry.names then (.error (.duplicateTask t.name), s)
            else (.ok (), { s with registry := s.registry.change (.lists ⟨number, t.name⟩) }) := by
  intro opening s
  obtain ⟨consistent, entries⟩ : (opening.after perform history).Directs _ :=
    directs_after perform history (directs_opening start world)
  have listed : (opening.after perform history).Listed := listed_after perform history (by nofun)
  have state : ∀ number name, ⟨number, name⟩ ∈ s.registry.entries →
      ∃ t, s.task? number = some t ∧ t.name = name ∧ s.state? name = some t.state := by
    intro number name mem
    obtain ⟨-, t, found, same⟩ := listed _ mem
    refine ⟨t, found, same, ?_⟩
    rw [Scheduler.state?, consistent.find?_eq_some_iff.2 mem, Option.bind_some,
      show s.task? number = some t from found, Option.map_some]
  have size : s.registry.size = s.registry.names.length := List.length_map _ |>.symm
  refine ⟨⟨consistent.taken, consistent.distinct, entries⟩,
    ⟨size, size.trans consistent.taken.length_eq.symm⟩, ?_, ?_⟩
  · intro name
    refine ⟨consistent.contains_iff name, ?_, fun number => state number name,
      Scheduler.remove_fst consistent name, Scheduler.stopNamed_fst consistent name⟩
    rw [← consistent.isSome_find?_iff]
    constructor
    · intro known
      rw [Scheduler.state?] at known
      cases found : s.registry.find? name with
      | some number => rfl
      | none =>
        rw [found] at known
        cases known
    · intro listed
      obtain ⟨number, found⟩ := Option.isSome_iff_exists.1 listed
      obtain ⟨t, -, -, stands⟩ := state number name (consistent.find?_eq_some_iff.1 found)
      rw [stands]
      rfl
  · intro number t found
    exact Scheduler.register_eq_of_task? consistent found

/-- A second task of a name is refused while the first one is listed, and accepted after that one
    has run: then it stands last. -/
theorem lists_second_after_first :
    let perform : Performer Nat Unit := fun millis _ _ world => (some ⟨millis, true⟩, world)
    let daily : Duty :=
      .daily ⟨⟨2, 0, 0, by decide, by decide, by decide⟩, DailySchedule.millis 86400⟩ .wall
    let both : List (Happening Nat) :=
      [⟨true, .build "seed" .once 0⟩, ⟨true, .register 0⟩, ⟨true, .build "rotate" daily 20000⟩,
        ⟨true, .register 1⟩, ⟨true, .build "seed" .once 5⟩]
    let run : List (Happening Nat) :=
      [⟨true, .register 2⟩, ⟨true, .runAll⟩, ⟨true, .turn 0⟩, ⟨true, .wake 0 ⟨7200, 0⟩⟩,
        ⟨true, .land ⟨0, 0, 0, true⟩⟩, ⟨true, .resume 0⟩, ⟨true, .register 2⟩]
    let opening : Rota Nat Unit := .opening ⟨7200, 0⟩ ()
    let s := (opening.after perform both).line.scheduler
    let s' := (opening.after perform (both ++ run)).line.scheduler
    (∃ t, s.task? 2 = some t ∧ s.register 2 = (.error (.duplicateTask "seed"), s))
      ∧ s'.registry.entries = [⟨1, "rotate"⟩, ⟨2, "seed"⟩]
      ∧ RegistryChange.left (opening.changes perform (both ++ run)) = s'.registry.entries
      ∧ s'.state? "seed" = some .registered ∧ (s'.remove "seed").1 = true
      ∧ (s'.stopNamed "seed-keys").1 = .error (.notFound "ScheduledTask" "seed-keys") := by
  intro perform daily both run opening s s'
  obtain ⟨-, -, -, registers⟩ := directory_agrees perform ⟨7200, 0⟩ () both
  obtain ⟨⟨-, -, entries⟩, -, answers, -⟩ := directory_agrees perform ⟨7200, 0⟩ () (both ++ run)
  obtain ⟨second, found⟩ := Option.isSome_iff_exists.1
    (show (s.task? 2).isSome = true by decide +kernel)
  have name : second.name = "seed" := by
    have seen : (s.task? 2).map (·.name) = some "seed" := by decide +kernel
    rw [found] at seen
    exact Option.some.inj seen
  have refused := registers 2 second found
  rw [name, if_pos (by decide +kernel)] at refused
  have listed : s'.registry.entries = [⟨1, "rotate"⟩, ⟨2, "seed"⟩] := by decide +kernel
  obtain ⟨-, -, -, removes, -⟩ := answers "seed"
  obtain ⟨-, -, -, -, stops⟩ := answers "seed-keys"
  refine ⟨⟨second, found, ?_⟩, listed, ?_, by decide +kernel, ?_, ?_⟩
  · exact refused
  · dsimp only [s', opening]
    exact entries.symm
  · rw [removes]
    exact decide_eq_true (by decide +kernel)
  · rw [stops, if_neg (by decide +kernel)]

end Rota

end Latchkey

import Latchkey.Proofs.Schedule.Directory
import Latchkey.Schedule.KeyTasks

set_option autoImplicit false

/-! # Listing the key tasks

The key tasks are listed one after the other: first the one that fills the pool of signing keys,
then the daily one. Nothing takes the first one out again where the second one is refused, be it that
the settings name no time of day or that its name is in use. So a refusal leaves the list as it was
if and only if it met the first task already (`Rota.refusal_leaves_seed`). -/

namespace Latchkey

namespace Scheduler

variable {α : Type} {s : Scheduler α} {task : Task α}

/-! ## The listed tasks -/

/-- The listed tasks as they stand, in the order of the list. -/
def listing (s : Scheduler α) : List (RegistryEntry × Option (Task α)) :=
  s.registry.entries.map fun entry => (entry, s.task? entry.number)

/-- Every listed number is that of a task. -/
def ListsKnown (s : Scheduler α) : Prop :=
  ∀ entry ∈ s.registry.entries, entry.number < s.tasks.length

/-- A task that is added stands last in the list, unless its name is in use. -/
theorem add_eq (s : Scheduler α) (task : Task α) :
    s.add task
      = if s.registry.contains task.name then (.error (.duplicateTask task.name), s.build task)
        else (.ok (), { s.build task with
          registry := s.registry.change (.lists ⟨s.tasks.length, task.name⟩) }) := by
  have built : (s.build task).task? s.tasks.length = some task := by
    rw [task?_build, if_pos rfl]
  rw [add, register_of_task? built]
  rfl

theorem add_of_used (used : s.registry.contains task.name = true) :
    s.add task = (.error (.duplicateTask task.name), s.build task) :=
  (s.add_eq task).trans (if_pos used)

theorem add_of_unused (unused : s.registry.contains task.name = false) :
    s.add task = (.ok (), { s.build task with
      registry := s.registry.change (.lists ⟨s.tasks.length, task.name⟩) }) :=
  (s.add_eq task).trans (if_neg (by rw [unused]; decide))

theorem listing_build (known : s.ListsKnown) (task : Task α) :
    (s.build task).listing = s.listing := by
  refine List.map_congr_left ?_
  intro entry mem
  rw [task?_build, if_neg (Nat.ne_of_lt (known entry mem))]

theorem listing_add_of_used (known : s.ListsKnown) (used : s.registry.contains task.name = true) :
    (s.add task).2.listing = s.listing := by
  rw [add_of_used used]
  exact listing_build known task

theorem listing_add_of_unused (known : s.ListsKnown)
    (unused : s.registry.contains task.name = false) :
    (s.add task).2.listing = s.listing ++ [(⟨s.tasks.length, task.name⟩, some task)] := by
  have last : (s.build task).task? s.tasks.length = some task := by
    rw [task?_build, if_pos rfl]
  rw [add_of_unused unused, ← last, ← listing_build known task]
  exact List.map_append

theorem listsKnown_add (known : s.ListsKnown) (task : Task α) :
    (s.add task).2.ListsKnown := by
  have built : (s.build task).ListsKnown := by
    intro entry mem
    simpa [build] using Nat.lt_succ_of_lt (known entry mem)
  rw [add_eq]
  split
  · exact built
  · intro entry mem
    rcases List.mem_append.1 mem with mem | mem
    · exact built entry mem
    · obtain rfl := List.mem_singleton.1 mem
      simp [build]

theorem length_tasks_add (s : Scheduler α) (task : Task α) :
    (s.add task).2.tasks.length = s.tasks.length + 1 := by
  have built : (s.build task).tasks.length = s.tasks.length + 1 := by simp [build]
  rw [add_eq]
  split <;> exact built

/-- A task that is added uses its own name only. -/
theorem contains_add_of_ne {name : String} (other : name ≠ task.name) :
    (s.add task).2.registry.contains name = s.registry.contains name := by
  rw [add_eq]
  split
  · rfl
  · simp [Registry.contains, Registry.change, other]

/-! ## The key tasks -/

/-- The task that fills the pool of signing keys. -/
def seedTask (action : KeyChore → α) : Task α :=
  { name := KeyChore.taskName .seed, duty := .once, action := action .seed }

/-- The task that runs a maintenance pass every day. -/
def rotateTask (action : KeyChore → α) (schedule : DailySchedule) (clock : Clock) : Task α :=
  { name := KeyChore.taskName .rotate, duty := .daily schedule clock, action := action .rotate }

/-- Lists the daily key task, if the settings name a time of day and a clock. -/
def addRotateTask (action : KeyChore → α) (settings : SchedulerSettings) (s : Scheduler α) :
    Except KeyTaskFault Unit × Scheduler α :=
  match DailySchedule.ofSettings settings with
  | .error e => (.error (.refused e), s)
  | .ok schedule =>
    match Clock.forTask? settings (KeyChore.taskName .rotate) with
    | none => (.error .noClock, s)
    | some clock =>
      let (result, s) := s.add (rotateTask action schedule clock)
      (result.mapError .refused, s)

variable {action : KeyChore → α} {settings : SchedulerSettings}

theorem addKeyTasks_of_used (used : s.registry.contains (KeyChore.taskName .seed) = true) :
    s.addKeyTasks action settings
      = (.error (.refused (.duplicateTask (KeyChore.taskName .seed))),
        s.build (seedTask action)) := by
  have refused : s.add (seedTask action) = _ := add_of_used used
  rw [seedTask] at refused
  rw [addKeyTasks, refused]
  rfl

theorem addKeyTasks_of_unused (unused : s.registry.contains (KeyChore.taskName .seed) = false) :
    s.addKeyTasks action settings
      = (s.add (seedTask action)).2.addRotateTask action settings := by
  have accepted : s.add (seedTask action) = _ := add_of_unused unused
  rw [accepted]
  rw [seedTask] at accepted
  rw [addKeyTasks, accepted]
  rfl

/-- How the listing of the daily key task ends, and what it adds to the list. -/
inductive RotateOutcome (action : KeyChore → α) (settings : SchedulerSettings) (s : Scheduler α) :
    Except KeyTaskFault Unit → List (RegistryEntry × Option (Task α)) → Prop
  /-- The settings name no time of day. -/
  | untimed (cause : Error) (untimed : DailySchedule.ofSettings settings = .error cause) :
    RotateOutcome action settings s (.error (.refused cause)) []
  /-- The settings name no clock. -/
  | unclocked (schedule : DailySchedule) (timed : DailySchedule.ofSettings settings = .ok schedule)
      (unclocked : Clock.forTask? settings (KeyChore.taskName .rotate) = none) :
    RotateOutcome action settings s (.error .noClock) []
  /-- The name is in use. -/
  | used (schedule : DailySchedule) (clock : Clock)
      (timed : DailySchedule.ofSettings settings = .ok schedule)
      (clocked : Clock.forTask? settings (KeyChore.taskName .rotate) = some clock)
      (used : s.registry.contains (KeyChore.taskName .rotate) = true) :
    RotateOutcome action settings s
      (.error (.refused (.duplicateTask (KeyChore.taskName .rotate)))) []
  | listed (schedule : DailySchedule) (clock : Clock)
      (timed : DailySchedule.ofSettings settings = .ok schedule)
      (clocked : Clock.forTask? settings (KeyChore.taskName .rotate) = some clock)
      (unused : s.registry.contains (KeyChore.taskName .rotate) = false) :
    RotateOutcome action settings s (.ok ())
      [(⟨s.tasks.length, KeyChore.taskName .rotate⟩, some (rotateTask action schedule clock))]

theorem addRotateTask_ends (known : s.ListsKnown) (action : KeyChore → α)
    (settings : SchedulerSettings) :
    ∃ added, (s.addRotateTask action settings).2.listing = s.listing ++ added
      ∧ RotateOutcome action settings s (s.addRotateTask action settings).1 added := by
  unfold addRotateTask
  cases timed : DailySchedule.ofSettings settings with
  | error cause => exact ⟨[], (List.append_nil _).symm, .untimed cause timed⟩
  | ok schedule =>
    cases clocked : Clock.forTask? settings (KeyChore.taskName .rotate) with
    | none => exact ⟨[], (List.append_nil _).symm, .unclocked schedule timed clocked⟩
    | some clock =>
      dsimp only
      cases used : s.registry.contains (KeyChore.taskName .rotate) with
      | true =>
        have refused : s.add (rotateTask action schedule clock) = _ := add_of_used used
        refine ⟨[], ?_, ?_⟩
        · rw [List.append_nil]
          exact listing_add_of_used known used
        · rw [refused]
          exact .used schedule clock timed clocked used
      | false =>
        have accepted : s.add (rotateTask action schedule clock) = _ := add_of_unused used
        refine ⟨_, listing_add_of_unused known used, ?_⟩
        rw [accepted]
        exact .listed schedule clock timed clocked used

/-- The first key task is listed, whatever becomes of the daily one. -/
theorem addKeyTasks_ends (known : s.ListsKnown)
    (unused : s.registry.contains (KeyChore.taskName .seed) = false) (action : KeyChore → α)
    (settings : SchedulerSettings) :
    ∃ added, (s.addKeyTasks action settings).2.listing
        = s.listing ++ (⟨s.tasks.length, KeyChore.taskName .seed⟩, some (seedTask action)) :: added
      ∧ RotateOutcome action settings (s.add (seedTask action)).2
        (s.addKeyTasks action settings).1 added := by
  have seeded : (s.add (seedTask action)).2.listing
      = s.listing ++ [(⟨s.tasks.length, KeyChore.taskName .seed⟩, some (seedTask action))] :=
    listing_add_of_unused known unused
  obtain ⟨added, listing, ends⟩ :=
    addRotateTask_ends (listsKnown_add known (seedTask action)) action settings
  rw [addKeyTasks_of_unused unused]
  refine ⟨added, ?_, ends⟩
  rw [listing, seeded, List.append_assoc, List.singleton_append]

namespace RotateOutcome

variable {result : Except KeyTaskFault Unit} {added : List (RegistryEntry × Option (Task α))}

theorem added_eq_nil (ends : RotateOutcome action settings s result added) {fault : KeyTaskFault}
    (failed : result = .error fault) : added = [] := by
  cases ends with
  | untimed | unclocked | used => rfl
  | listed => cases failed

theorem exists_added (ends : RotateOutcome action settings s result added)
    (accepted : result = .ok ()) :
    ∃ schedule clock, added = [(⟨s.tasks.length, KeyChore.taskName .rotate⟩,
      some (rotateTask action schedule clock))] := by
  cases ends with
  | untimed | unclocked | used => cases accepted
  | listed schedule clock => exact ⟨schedule, clock, rfl⟩

/-- What the daily task is refused for. -/
theorem refused_iff (ends : RotateOutcome action settings s result added) {cause : Error} :
    result = .error (.refused cause) ↔ DailySchedule.ofSettings settings = .error cause
      ∨ (∃ schedule, DailySchedule.ofSettings settings = .ok schedule)
        ∧ (∃ clock, Clock.forTask? settings (KeyChore.taskName .rotate) = some clock)
        ∧ s.registry.contains (KeyChore.taskName .rotate) = true
        ∧ cause = .duplicateTask (KeyChore.taskName .rotate) := by
  cases ends with
  | untimed _ untimed => simp [untimed]
  | unclocked schedule timed unclocked => simp [timed, unclocked]
  | used schedule clock timed clocked used => simp [timed, clocked, used, eq_comm]
  | listed schedule clock timed clocked unused => simp [timed, unused]

end RotateOutcome

end Scheduler

namespace Rota

variable {α σ : Type}

theorem listsKnown_after (perform : Performer α σ) (start : Instant) (world : σ)
    (history : List (Happening α)) :
    ((opening start world).after perform history).line.scheduler.ListsKnown := by
  intro entry mem
  obtain ⟨-, t, found, -⟩ := listed_after perform history (by nofun) entry mem
  exact (List.getElem?_eq_some_iff.1 found).1

/-- Whatever has happened: if the name of the first key task is listed, the key tasks are refused
    for that and the registry is left as it was. Otherwise that task is listed in any case,
    registered and after all others; the daily one follows it, or is refused because the settings
    name no time of day or because its name is listed, and then nothing takes the first one out. So
    a refusal leaves the list as it was if and only if the name of the first key task was listed. -/
theorem refusal_leaves_seed (perform : Performer α σ) (start : Instant) (world : σ)
    (history : List (Happening α)) (action : KeyChore → α) (settings : SchedulerSettings) :
    let s := ((opening start world).after perform history).line.scheduler
    let (result, s') := s.addKeyTasks action settings
    let seed := KeyChore.taskName .seed
    let rotate := KeyChore.taskName .rotate
    let seeding := (RegistryEntry.mk s.tasks.length seed, some (Scheduler.seedTask action))
    (seed ∈ s.registry.names →
        result = .error (.refused (.duplicateTask seed)) ∧ s'.registry = s.registry
          ∧ s'.listing = s.listing)
      ∧ (seed ∉ s.registry.names →
        (result = .ok () →
          ∃ schedule clock, s'.listing = s.listing ++ [seeding,
            (⟨s.tasks.length + 1, rotate⟩, some (Scheduler.rotateTask action schedule clock))])
        ∧ (∀ fault, result = .error fault → s'.listing = s.listing ++ [seeding])
        ∧ ∀ cause, result = .error (.refused cause) ↔
          DailySchedule.ofSettings settings = .error cause
            ∨ (∃ schedule, DailySchedule.ofSettings settings = .ok schedule)
              ∧ (∃ clock, Clock.forTask? settings rotate = some clock)
              ∧ rotate ∈ s.registry.names ∧ cause = .duplicateTask rotate)
      ∧ ∀ cause, result = .error (.refused cause) →
        (s'.listing = s.listing ↔ seed ∈ s.registry.names) := by
  intro s
  have consistent : s.registry.Consistent :=
    (directs_after perform history (directs_opening start world)).consistent
  have known : s.ListsKnown := listsKnown_after perform start world history
  cases used : s.registry.contains (KeyChore.taskName .seed) with
  | true =>
    have mem := (consistent.contains_iff _).1 used
    rw [Scheduler.addKeyTasks_of_used used]
    dsimp only
    have same : (s.build (Scheduler.seedTask action)).listing = s.listing :=
      Scheduler.listing_build known _
    exact ⟨fun _ => ⟨rfl, rfl, same⟩, fun unlisted => absurd mem unlisted,
      fun _ _ => ⟨fun _ => mem, fun _ => same⟩⟩
  | false =>
    have unlisted : KeyChore.taskName .seed ∉ s.registry.names := by
      intro mem
      rw [(consistent.contains_iff _).2 mem] at used
      cases used
    obtain ⟨added, listing, ends⟩ := Scheduler.addKeyTasks_ends known used action settings
    generalize s.addKeyTasks action settings = ran at listing ends ⊢
    obtain ⟨result, s'⟩ := ran
    dsimp only at listing ends ⊢
    have failed : ∀ fault, result = .error fault → s'.listing = s.listing
        ++ [(⟨s.tasks.length, KeyChore.taskName .seed⟩, some (Scheduler.seedTask action))] := by
      intro fault failed
      rw [listing, ends.added_eq_nil failed]
    refine ⟨fun mem => absurd mem unlisted, fun _ => ⟨?accepted, failed, ?causes⟩, ?kept⟩
    case accepted =>
      intro accepted
      obtain ⟨schedule, clock, rfl⟩ := ends.exists_added accepted
      refine ⟨schedule, clock, ?_⟩
      rw [listing, Scheduler.length_tasks_add]
    case causes =>
      intro cause
      have apart : KeyChore.taskName .rotate ≠ (Scheduler.seedTask action).name := by
        show KeyChore.taskName .rotate ≠ KeyChore.taskName .seed
        decide
      rw [ends.refused_iff, Scheduler.contains_add_of_ne apart, consistent.contains_iff]
    case kept =>
      intro cause refused
      rw [failed _ refused]
      exact ⟨fun same => by simpa using congrArg List.length same,
        fun mem => absurd mem unlisted⟩

/-- An hour that no day has: with an empty list the first key task is left behind, to be started
    with all others, and with that task listed before nothing changes. -/
theorem refuses_hour_24 :
    let perform : Performer KeyChore Unit := fun _ _ _ world => (some ⟨0, true⟩, world)
    let settings : SchedulerSettings := { rotationHour := 24 }
    let seeded : List (Happening KeyChore) :=
      [⟨true, .build (KeyChore.taskName .seed) .once .seed⟩, ⟨true, .register 0⟩]
    let empty := (opening ⟨7200, 0⟩ ()).line.scheduler
    let s := ((opening ⟨7200, 0⟩ ()).after perform seeded).line.scheduler
    (empty.addKeyTasks id settings).2.listing
        = [(⟨0, KeyChore.taskName .seed⟩, some (Scheduler.seedTask id))]
      ∧ (s.addKeyTasks id settings).1
        = .error (.refused (.duplicateTask (KeyChore.taskName .seed)))
      ∧ (s.addKeyTasks id settings).2.listing = s.listing := by
  intro perform settings seeded empty s
  obtain ⟨-, left, -⟩ := refusal_leaves_seed perform ⟨7200, 0⟩ () [] id settings
  obtain ⟨-, left, -⟩ := left (by decide +kernel)
  obtain ⟨met, -⟩ := refusal_leaves_seed perform ⟨7200, 0⟩ () seeded id settings
  obtain ⟨refused, -, same⟩ := met (by decide +kernel)
  refine ⟨?_, refused, same⟩
  exact left (.refused (.internal "invalid time of day 24:00:00")) (by decide +kernel)

/-- With the name of the daily key task in use the key tasks are refused, and the list has one task
    more than before. -/
theorem refusal_lists_seed :
    let perform : Performer KeyChore Unit := fun _ _ _ world => (some ⟨0, true⟩, world)
    let history : List (Happening KeyChore) :=
      [⟨true, .build (KeyChore.taskName .rotate) .once .rotate⟩, ⟨true, .register 0⟩]
    let s := ((opening ⟨7200, 0⟩ ()).after perform history).line.scheduler
    let (result, s') := s.addKeyTasks id {}
    result = .error (.refused (.duplicateTask "rotate-jwk"))
      ∧ s.registry.names = ["rotate-jwk"]
      ∧ s'.registry.names = ["rotate-jwk", "seed-signing-keys"]
      ∧ s'.state? "seed-signing-keys" = some .registered := by
  decide +kernel

end Rota

end Latchkey

import Latchkey.Proofs.Schedule.Listing

set_option autoImplicit false

/-! # The life of a task

Whatever happens on a rota, in whatever order, and however the runs of actions end: a task goes from
registered to running to stopped or straight from registered to stopped, its background work is
launched once at most, and it has one run in flight at most. A task of one run begins no other and
leaves the registry with the end of its work. Once a task is stopped no further run of it begins,
and a run that had begun goes on to its own end. All of it is in `Rota.tasks_run_their_course`.

The background work has no such end where an action panics while it is called, before there is a
run: the task is left in the registry and running, though nothing of it runs any more
(`Rota.panicking_call_leaves_task`). -/

namespace Latchkey

namespace Rota

variable {α σ : Type} {perform : Performer α σ} {r : Rota α σ} {e : Happening α} {n : Nat}
  {t : Task α} {later : List (Happening α)}

/-! ## Stops -/

/-- Whoever stops a task has stopped it. -/
theorem task?_of_stopped (perform : Performer α σ) (found : r.task? n = some t)
    (stops : n ∈ r.stopped e) :
    (r.happen perform e).task? n = some t.stop := by
  have stopped : ∀ numbers : List Nat, n ∈ numbers →
      (numbers.foldl Scheduler.stop r.line.scheduler).task? n = some t.stop := by
    intro numbers mem
    rw [Scheduler.task?_foldl_stop, if_pos mem, show r.line.scheduler.task? n = some t from found,
      Option.map_some]
  obtain ⟨leads, deed⟩ := e
  cases deed with
  | stop number => exact stopped [number] stops
  | stopNamed name =>
    simp only [happen, Scheduler.stopNamed_eq]
    exact stopped _ stops
  | stopAll => exact stopped _ stops
  | _ => cases stops

theorem begins_of_stopped (stops : n ∈ r.stopped e) :
    (r.happen perform e).begins n = r.begins n := by
  obtain ⟨leads, deed⟩ := e
  cases deed with
  | stop | stopNamed | stopAll => rfl
  | _ => cases stops

/-- No run of a task begins that was stopped. -/
theorem begins_after_of_cancelled (perform : Performer α σ) (later : List (Happening α))
    (found : r.task? n = some t) (cancelled : t.cancelled = true) :
    (r.after perform later).begins n = r.begins n := by
  induction later generalizing r t with
  | nil => rfl
  | cons e later ih =>
    obtain ⟨t', found', keeps, -⟩ := goes_happen perform e found
    refine (ih found' (keeps.cancelled cancelled)).trans ?_
    rcases begins_happen perform r e n with same | ⟨t₀, found₀, -, going⟩
    · exact same
    · obtain rfl := Option.some.inj (found₀.symm.trans found)
      exact absurd cancelled (by rw [going]; decide)

/-! ## Runs in flight -/

/-- What happens to the runs in flight and to the events. -/
theorem line_happen (perform : Performer α σ) (r : Rota α σ) (e : Happening α) :
    (r.happen perform e).line.inFlight = r.line.inFlight
        ∧ (r.happen perform e).line.events = r.line.events
      ∨ (∃ flight event, (r.happen perform e).line.inFlight = r.line.inFlight ++ [flight]
        ∧ (r.happen perform e).line.events = event :: r.line.events)
      ∨ ∃ flight, e.deed = .land flight
        ∧ (r.happen perform e).line = r.line.land flight := by
  obtain ⟨leads, deed⟩ := e
  cases deed with
  | wake number reading =>
    have wakes := wakes_happen perform r leads number reading
    generalize r.happen perform ⟨leads, .wake number reading⟩ = r' at wakes ⊢
    cases wakes with
    | keep | settle | panic => exact .inl ⟨rfl, rfl⟩
    | @act t t' flight => exact .inr (.inl ⟨flight, _, rfl, rfl⟩)
  | resume number =>
    rcases happen_resume perform r leads number with same | ⟨t, found, -, made⟩
    · rw [same]
      exact .inl ⟨rfl, rfl⟩
    · rw [made]
      exact .inl ⟨rfl, rfl⟩
  | land flight =>
    simp only [happen]
    split
    · exact .inr (.inr ⟨flight, rfl, rfl⟩)
    · exact .inl ⟨rfl, rfl⟩
  | evaluate number reading =>
    simp only [happen]
    split <;> exact .inl ⟨rfl, rfl⟩
  | turn round =>
    simp only [happen]
    split <;> exact .inl ⟨rfl, rfl⟩
  | _ => exact .inl ⟨rfl, rfl⟩

/-- A run that has begun is in flight until it lands, and if it is a success its end is seen. -/
def Completes (flight : RunInFlight) (later : List (Happening α)) (r' : Rota α σ) : Prop :=
  flight ∈ r'.line.inFlight
    ∨ (∃ e ∈ later, e.deed = .land flight)
      ∧ (flight.succeeds = true →
        ∃ time, ⟨time, flight.number, flight.run, true⟩ ∈ r'.line.events)

theorem events_subset_after (perform : Performer α σ) (r : Rota α σ)
    (later : List (Happening α)) : r.line.events ⊆ (r.after perform later).line.events := by
  induction later generalizing r with
  | nil => exact List.Subset.refl _
  | cons e later ih =>
    refine List.Subset.trans ?_ (ih (r.happen perform e))
    rcases line_happen perform r e with ⟨-, same⟩ | ⟨_, event, -, more⟩ | ⟨flight, -, landed⟩
    · rw [same]
      exact List.Subset.refl _
    · rw [more]
      exact List.subset_cons_self _ _
    · rw [landed]
      unfold Timeline.land
      dsimp only
      split
      · exact List.subset_cons_self _ _
      · exact List.Subset.refl _

theorem completes_after (perform : Performer α σ) (later : List (Happening α))
    {flight : RunInFlight} (begun : flight ∈ r.line.inFlight) :
    Completes flight later (r.after perform later) := by
  induction later generalizing r with
  | nil => exact .inl begun
  | cons e later ih =>
    have goes_on : flight ∈ (r.happen perform e).line.inFlight →
        Completes flight (e :: later) (r.after perform (e :: later)) := by
      intro still
      rcases ih still with there | ⟨⟨landing, mem, lands⟩, seen⟩
      · exact .inl there
      · exact .inr ⟨⟨landing, List.mem_cons_of_mem _ mem, lands⟩, seen⟩
    rcases line_happen perform r e with ⟨same, -⟩ | ⟨_, _, more, -⟩ | ⟨other, lands, landed⟩
    · exact goes_on (by rwa [same])
    · exact goes_on (by rw [more]; exact List.mem_append_left _ begun)
    · by_cases here : flight = other
      · subst here
        refine .inr ⟨⟨e, List.mem_cons_self, lands⟩, ?_⟩
        intro succeeds
        refine ⟨r.line.time, events_subset_after perform (r.happen perform e) later ?_⟩
        rw [landed, Timeline.land, if_pos succeeds]
        exact List.mem_cons_self
      · refine goes_on ?_
        rw [landed]
        exact (List.mem_erase_of_ne here).2 begun

/-! ## The end of the background work -/

/-- With the end of its background work a task of one run is stopped and leaves the registry. -/
theorem ends_happen {t' : Task α} (found : r.task? n = some t) (once : t.duty = .once)
    (going : t.phase ≠ .over) (found' : (r.happen perform e).task? n = some t')
    (ended : t'.phase = .over) :
    t'.state = .stopped
      ∧ (r.happen perform e).line.scheduler.registry
        = r.line.scheduler.registry.unregister t.name := by
  by_cases works : e.deed.worker? = some n
  · rcases settles_happen perform works with
      same | ⟨t₀, t₁, progress, found₀, settled, ends, last⟩
    · rw [same, found] at found'
      obtain rfl := Option.some.inj found'
      exact absurd ended going
    · obtain rfl := Option.some.inj (found₀.symm.trans found)
      rw [task?, settled, Scheduler.task?_settleStep, if_pos rfl,
        show r.line.scheduler.task? n = some t₀ from found, Option.map_some] at found'
      obtain rfl := Option.some.inj found'
      have finishing := last once going ended
      obtain ⟨-, rfl⟩ := ends finishing
      refine ⟨rfl, ?_⟩
      rw [settled, Scheduler.registry_settleStep,
        if_pos ⟨finishing, Task.schedule?_eq_none.2 once⟩]
      rfl
  · by_cases launch : r.launch? e = some n
    · obtain ⟨_, -, -, -, launched⟩ := watch_of_launch perform launch
      obtain rfl := Option.some.inj (found'.symm.trans (congrArg Watch.task? launched))
      cases ended
    · rw [(calls_happen launch works).phase_eq found found'] at ended
      exact absurd ended going

/-! ## Calls that panic -/

/-- The task whose action is called and panics in the call, if there is one. -/
def panics? (perform : Performer α σ) (r : Rota α σ) (e : Happening α) : Option Nat :=
  match e.deed with
  | .wake number reading =>
    if (r.task? number).any fun t =>
        (t.step? r.line.time reading).map (·.2) = some .acts ∧ r.CallPanics perform t then
      some number
    else none
  | _ => none

theorem panics?_wake {leads : Bool} {number : Nat} {reading : Instant} :
    r.panics? perform ⟨leads, .wake number reading⟩ = some n ↔ number = n
      ∧ ∃ t t', r.task? number = some t ∧ t.step? r.line.time reading = some (t', .acts)
        ∧ r.CallPanics perform t := by
  simp only [panics?, Option.ite_none_right_eq_some, Option.any_eq_true, decide_eq_true_iff,
    Option.map_eq_some_iff, Option.some.injEq]
  grind

/-- A call that panics breaks the background work down. The registry and the runs that have begun
    stay as they are. -/
theorem breaks_happen (panics : r.panics? perform e = some n) (found : r.task? n = some t) :
    t.Awake ∧ t.cancelled = false
      ∧ ∃ caughtUp delay, (r.happen perform e).task? n = some ({ t with caughtUp }.act delay).breakDown
        ∧ (r.happen perform e).line.scheduler.registry = r.line.scheduler.registry := by
  obtain ⟨leads, deed⟩ := e
  cases deed with
  | wake number reading =>
    obtain ⟨rfl, t₀, t₁, found₀, step, panics⟩ := panics?_wake.1 panics
    obtain rfl := Option.some.inj (found₀.symm.trans found)
    obtain ⟨awake, proceeds⟩ := Task.awake_of_step? step
    obtain ⟨going, caughtUp, delay, rfl⟩ := Task.act_of_proceed proceeds
    refine ⟨awake, going, caughtUp, delay, ?_⟩
    have wakes := wakes_happen perform r leads number reading
    generalize r.happen perform ⟨leads, .wake number reading⟩ = r' at wakes ⊢
    cases wakes with
    | keep asleep => cases step.symm.trans (asleep t₀ found₀)
    | settle found₂ step₂ rests =>
      obtain rfl := Option.some.inj (found₂.symm.trans found₀)
      obtain ⟨-, rfl⟩ := Prod.mk.inj (Option.some.inj (step₂.symm.trans step))
      exact absurd rfl rests
    | act found₂ step₂ runs =>
      obtain rfl := Option.some.inj (found₂.symm.trans found₀)
      exact absurd panics runs
    | panic found₂ step₂ =>
      obtain rfl := Option.some.inj (found₂.symm.trans found₀)
      obtain ⟨rfl, -⟩ := Prod.mk.inj (Option.some.inj (step₂.symm.trans step))
      refine ⟨task?_settle found₂ _ .quiet, ?_⟩
      exact (Scheduler.registry_settleStep ..).trans (if_neg nofun)
  | _ => cases panics

/-- Only a call that panics breaks the background work of a task of one run down. -/
theorem panics_of_broken {t' : Task α} (found : r.task? n = some t) (once : t.duty = .once)
    (whole : t.phase ≠ .broken) (found' : (r.happen perform e).task? n = some t')
    (broken : t'.phase = .broken) : r.panics? perform e = some n := by
  by_cases works : e.deed.worker? = some n
  · obtain ⟨leads, deed⟩ := e
    cases deed with
    | wake number reading =>
      obtain rfl := Option.some.inj works
      have wakes := wakes_happen perform r leads number reading
      generalize r.happen perform ⟨leads, .wake number reading⟩ = r' at wakes found'
      cases wakes with
      | keep =>
        obtain rfl := Option.some.inj (found'.symm.trans found)
        exact absurd broken whole
      | @settle t₀ t₁ progress found₀ step rests =>
        obtain rfl := Option.some.inj (found₀.symm.trans found)
        obtain rfl := Option.some.inj (found'.symm.trans (task?_settle found₀ t₁ progress))
        exact absurd broken (Task.unbroken_of_step? once step)
      | @act t₀ t₁ flight world found₀ step =>
        obtain rfl := Option.some.inj (found₀.symm.trans found)
        obtain rfl := Option.some.inj (found'.symm.trans (task?_settle found₀ t₁ .acts))
        exact absurd broken (Task.unbroken_of_step? once step)
      | panic found₀ step panics => exact panics?_wake.2 ⟨rfl, _, _, found₀, step, panics⟩
    | resume number =>
      obtain rfl := Option.some.inj works
      rcases happen_resume perform r leads number with same | ⟨t₀, found₀, -, made⟩
      · rw [same, found] at found'
        obtain rfl := Option.some.inj found'
        exact absurd broken whole
      · obtain rfl := Option.some.inj (found₀.symm.trans found)
        rw [made, task?_settle found] at found'
        obtain rfl := Option.some.inj found'
        exact absurd broken (Task.unbroken_actionEnded r.line.time once whole)
    | _ => cases works
  · by_cases launch : r.launch? e = some n
    · obtain ⟨_, -, -, -, launched⟩ := watch_of_launch perform launch
      obtain rfl := Option.some.inj (found'.symm.trans (congrArg Watch.task? launched))
      cases broken
    · rw [(calls_happen launch works).phase_eq found found'] at broken
      exact absurd broken whole

/-- Background work that is there no more does not come back. -/
theorem gone_happen (perform : Performer α σ) (e : Happening α) (sound : (r.watch n).Sound)
    (found : r.task? n = some t) (gone : t.Gone) :
    ∃ t', (r.happen perform e).task? n = some t' ∧ t'.Gone := by
  rcases concerns_happen perform r e n with launch | ⟨-, call⟩ | work
  · obtain ⟨t₀, found₀, registered, -⟩ := watch_of_launch perform launch
    obtain rfl := Option.some.inj (found₀.symm.trans found)
    rw [watch_of_task? found] at sound
    rcases gone with ended | broken
    · cases ended.symm.trans (Task.Sound.registered sound registered)
    · cases broken.symm.trans (Task.Sound.registered sound registered)
  · obtain ⟨t', found', -⟩ := call.goes found
    refine ⟨t', found', ?_⟩
    rw [Task.Gone, call.phase_eq found found']
    exact gone
  · have same := congrArg Watch.task? (work.eq_of_gone found gone)
    exact ⟨t, same.trans found, gone⟩

/-- No run of a task begins whose background work is there no more. -/
theorem begins_after_of_gone (perform : Performer α σ) (later : List (Happening α))
    (sound : (r.watch n).Sound) (found : r.task? n = some t) (gone : t.Gone) :
    (r.after perform later).begins n = r.begins n := by
  induction later generalizing r t with
  | nil => rfl
  | cons e later ih =>
    obtain ⟨t', found', gone'⟩ := gone_happen perform e sound found gone
    refine (ih (sound_happen perform e sound) found' gone').trans ?_
    rcases begins_happen perform r e n with same | ⟨t₀, found₀, awake, -⟩
    · exact same
    · obtain rfl := Option.some.inj (found₀.symm.trans found)
      exact absurd gone awake.not_gone

/-! ## Whole histories -/

/-- Whatever happens, and in whatever order: background work is launched at most once, and a task is
    registered when it is built. A task of one run begins it at most once, and no task has two runs
    in flight. A state only moves on, from registered to running to stopped or past running, and
    background work comes to its first step by a launch. When the background work of a task of one
    run is there no more, the task is stopped and listed no more, unless a call of its action
    panicked: then it is running, and as much listed as before. Background work that is there no
    more begins no run. Once a task is stopped no run of it begins, while one in flight completes. -/
theorem tasks_run_their_course (perform : Performer α σ) (start : Instant) (world : σ)
    (history : List (Happening α)) :
    let opening : Rota α σ := .opening start world
    let r := opening.after perform history
    (opening.launched perform history).Nodup
      ∧ (∀ e n t', r.task? n = none → (r.happen perform e).task? n = some t' →
        t'.state = .registered)
      ∧ ∀ n t, r.task? n = some t →
        (t.duty = .once → r.begins n ≤ 1)
        ∧ (r.flights n).length ≤ 1
        ∧ (∀ e, ∃ t', (r.happen perform e).task? n = some t'
          ∧ (t'.state = t.state ∨ t.state.Moves t'.state)
          ∧ (t'.phase = .ready → t.phase = .ready ∨ r.launch? e = some n)
          ∧ if r.panics? perform e = some n then
              ¬ t.Gone ∧ t'.Gone ∧ t'.state = .running
                ∧ (r.happen perform e).line.scheduler.registry = r.line.scheduler.registry
            else t.duty = .once → ¬ t.Gone → t'.Gone →
              t'.state = .stopped ∧ ¬ (r.happen perform e).Lists n t.name)
        ∧ (t.Gone → ∀ later, (r.after perform later).begins n = r.begins n)
        ∧ ∀ e, n ∈ r.stopped e → ∀ later,
          (r.after perform (e :: later)).begins n = r.begins n
          ∧ ∀ flight ∈ r.flights n,
            Completes flight (e :: later) (r.after perform (e :: later)) := by
  intro opening r
  have listed : r.Listed := listed_after perform history (by nofun)
  refine ⟨nodup_launched (sound_opening start world), ?_, ?_⟩
  · intro e n t' unbuilt found'
    exact registered_happen unbuilt found'
  intro n t found
  have sound := sound_after perform history (sound_opening start world n)
  have here : t.Sound (r.flights n) (r.begins n) := by
    rw [watch_of_task? found] at sound
    exact sound
  refine ⟨fun once => (here.once once).1, here.single, ?_,
    fun gone later => begins_after_of_gone perform later sound found gone, ?_⟩
  · intro e
    obtain ⟨t', found', keeps, moves⟩ := goes_happen perform e found
    refine ⟨t', found', moves, ready_happen found found', ?_⟩
    split
    · rename_i panics
      obtain ⟨awake, going, caughtUp, delay, broken, same⟩ := breaks_happen panics found
      obtain rfl := Option.some.inj (found'.symm.trans broken)
      exact ⟨awake.not_gone, .inr rfl, here.running awake going, same⟩
    · rename_i fine
      intro once going gone
      have ended : t'.phase = .over := gone.resolve_right fun broken =>
        fine (panics_of_broken found once (fun broken => going (.inr broken)) found' broken)
      have unended : t.phase ≠ .over := fun ended => going (.inl ended)
      obtain ⟨stopped, less⟩ := ends_happen found once unended found' ended
      rw [← keeps.name] at less ⊢
      exact ⟨stopped, not_lists_of_unregister listed (listed_happen perform e listed) found' less⟩
  · intro e stops later
    have stopped := task?_of_stopped perform found stops
    refine ⟨(begins_after_of_cancelled perform later stopped rfl).trans (begins_of_stopped stops), ?_⟩
    intro flight mem
    exact completes_after perform (e :: later) (List.mem_filter.1 mem).1

/-- A task for two o'clock is stopped while its run of twenty seconds is in flight: the run lands,
    and no other begins at the next slot. A task of one run leaves the registry when its run has
    ended. -/
theorem stopped_in_flight :
    let perform : Performer Nat Unit := fun millis _ _ world => (some ⟨millis, true⟩, world)
    let daily : Duty :=
      .daily ⟨⟨2, 0, 0, by decide, by decide, by decide⟩, DailySchedule.millis 86400⟩ .wall
    let history : List (Happening Nat) :=
      [⟨true, .build "rotate" daily 20000⟩, ⟨true, .register 0⟩, ⟨true, .build "seed" .once 0⟩,
        ⟨true, .register 1⟩, ⟨true, .runAll⟩, ⟨true, .turn 0⟩, ⟨true, .turn 0⟩,
        ⟨true, .wake 0 ⟨7200, 0⟩⟩, ⟨true, .wake 1 ⟨7200, 0⟩⟩, ⟨true, .land ⟨1, 0, 0, true⟩⟩]
    let opening : Rota Nat Unit := .opening ⟨7200, 0⟩ ()
    let r := opening.after perform history
    let flight : RunInFlight := ⟨0, 0, 20000, true⟩
    let later : List (Happening Nat) :=
      [⟨true, .pass 20000⟩, ⟨true, .land flight⟩, ⟨true, .resume 0⟩, ⟨true, .pass 86380000⟩,
        ⟨true, .wake 0 ⟨93600, 0⟩⟩]
    (opening.launched perform history).Nodup ∧ opening.launched perform history = [0, 1]
      ∧ (0 ∈ r.stopped ⟨true, .stop 0⟩ ∧ flight ∈ r.flights 0
        ∧ (r.after perform (⟨true, .stop 0⟩ :: later)).begins 0 = 1
        ∧ Completes flight (⟨true, .stop 0⟩ :: later)
          (r.after perform (⟨true, .stop 0⟩ :: later)))
      ∧ ∃ t, (r.happen perform ⟨true, .resume 1⟩).task? 1 = some t ∧ t.state = .stopped
        ∧ ¬ (r.happen perform ⟨true, .resume 1⟩).Lists 1 "seed" := by
  intro perform daily history opening r flight later
  obtain ⟨once, -, lives⟩ := tasks_run_their_course perform ⟨7200, 0⟩ () history
  obtain ⟨rotate, found⟩ := Option.isSome_iff_exists.1
    (show (r.task? 0).isSome = true by decide +kernel)
  obtain ⟨-, -, -, -, stops⟩ := lives 0 rotate found
  have inFlight : flight ∈ r.flights 0 := by decide +kernel
  obtain ⟨begun, completes⟩ := stops ⟨true, .stop 0⟩ (by decide) later
  have seen : (r.task? 1).map (fun t => (t.schedule?, t.phase, t.name))
      = some (none, .acting 0, "seed") := by decide +kernel
  obtain ⟨seed, found', same⟩ := Option.map_eq_some_iff.1 seen
  obtain ⟨undated, phase, name⟩ : seed.schedule? = none ∧ seed.phase = .acting 0
      ∧ seed.name = "seed" := by simpa using same
  have duty : seed.duty = .once := Task.schedule?_eq_none.1 undated
  have acting : seed.Acting := ⟨0, phase⟩
  obtain ⟨-, -, goes, -⟩ := lives 1 seed found'
  obtain ⟨t', after, -, -, ends⟩ := goes ⟨true, .resume 1⟩
  have ended : t'.phase = .over := by
    have seen' : ((r.happen perform ⟨true, .resume 1⟩).task? 1).map (·.phase) = some .over := by
      decide +kernel
    rw [after] at seen'
    exact Option.some.inj seen'
  rw [if_neg nofun] at ends
  refine ⟨once, by decide +kernel,
    ⟨by decide, inFlight, begun.trans (by decide +kernel), completes flight inFlight⟩,
    t', after, ?_⟩
  rw [← name]
  exact ends duty acting.not_gone (.inl ended)

/-- A task of one run is listed and started, and its action panics while it is called. Its
    background work is there no more then, and the task is neither stopped nor taken out of the
    registry, then or later. -/
theorem panicking_call_leaves_task :
    let perform : Performer Unit Unit := fun _ _ _ world => (none, world)
    let history : List (Happening Unit) :=
      [⟨true, .build "seed" .once ()⟩, ⟨true, .register 0⟩, ⟨true, .runAll⟩, ⟨true, .turn 0⟩,
        ⟨true, .wake 0 ⟨7200, 0⟩⟩]
    let later : List (Happening Unit) :=
      [⟨true, .resume 0⟩, ⟨true, .pass 86400000⟩, ⟨true, .wake 0 ⟨93600, 0⟩⟩]
    let r := (Rota.opening ⟨7200, 0⟩ ()).after perform history
    ∀ r' ∈ [r, r.after perform later],
      (r'.task? 0).map (fun t => (t.phase, t.state)) = some (.broken, .running)
        ∧ r'.begins 0 = 0 ∧ ⟨0, "seed"⟩ ∈ r'.line.scheduler.registry.entries := by
  decide +kernel

end Rota

end Latchkey

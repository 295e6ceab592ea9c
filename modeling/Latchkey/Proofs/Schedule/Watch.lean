import Latchkey.Proofs.Schedule.Rota

set_option autoImplicit false

/-! # One task on a rota

Of everything that happens, little concerns a given task: its background work is launched
(`Rota.watch_of_launch`) or makes a step (`Rota.works_happen`), or others call it
(`Rota.calls_happen`). What each of these changes is said here once, as a relation between what
there is to see of the task before and after. -/

namespace Latchkey

/-! ## The background work of one task -/

namespace Task

variable {α : Type} {time : Nat} {now : Instant} {t : Task α}

/-- The background work waits for nothing but its time. -/
def Awake (t : Task α) : Prop :=
  t.phase = .ready ∨ ∃ wake, t.phase = .waiting wake

/-- The background work waits for the end of a run. -/
def Acting (t : Task α) : Prop :=
  ∃ delay, t.phase = .acting delay

/-- The background work is there no more: it came to its end or broke down. -/
def Gone (t : Task α) : Prop :=
  t.phase = .over ∨ t.phase = .broken

/-- What the background work does when it is awake. -/
theorem proceed_cases (time : Nat) (now : Instant) (t : Task α) :
    (t.cancelled = true ∧ t.proceed time now = (t.finish, .ends))
      ∨ (t.cancelled = false
        ∧ ((∃ caughtUp delay, t.proceed time now = ({ t with caughtUp }.act delay, .acts))
          ∨ (t.duty ≠ .once
            ∧ ((∃ caughtUp wake,
                  t.proceed time now = ({ t with caughtUp, phase := .waiting wake }, .quiet))
              ∨ t.proceed time now = (t.breakDown, .quiet))))) := by
  obtain ⟨name, duty, action, state, cancelled, phase, served, runs⟩ := t
  cases cancelled with
  | true => exact .inl ⟨rfl, rfl⟩
  | false =>
    refine .inr ⟨rfl, ?_⟩
    cases duty with
    | once => exact .inl ⟨served, 0, rfl⟩
    | daily schedule clock =>
      simp only [proceed, evaluateOn]
      cases clock.read? now with
      | none => exact .inr ⟨nofun, .inr rfl⟩
      | some reading =>
        rw [Option.map_some]
        generalize schedule.nextFire reading served = fired
        obtain ⟨⟨runNow, delay⟩, caughtUp⟩ := fired
        cases runNow with
        | true => exact .inl ⟨caughtUp, delay, rfl⟩
        | false => exact .inr ⟨nofun, .inl ⟨caughtUp, time + delay, rfl⟩⟩

/-- An action is called for a task that is not stopped. -/
theorem act_of_proceed {t' : Task α} (acts : t.proceed time now = (t', .acts)) :
    t.cancelled = false ∧ ∃ caughtUp delay, t' = { t with caughtUp }.act delay := by
  rcases proceed_cases time now t with
    ⟨-, done⟩ | ⟨going, ⟨caughtUp, delay, done⟩ | ⟨-, ⟨caughtUp, wake, done⟩ | done⟩⟩
  · cases acts.symm.trans done
  · exact ⟨going, caughtUp, delay, (Prod.mk.inj (acts.symm.trans done)).1⟩
  · cases acts.symm.trans done
  · cases acts.symm.trans done

theorem awake_of_step? {done : Task α × Progress} (step : t.step? time now = some done) :
    t.Awake ∧ t.proceed time now = done := by
  unfold step? at step
  split at step
  · rename_i ready
    exact ⟨.inl ready, Option.some.inj step⟩
  · rename_i wake waiting
    exact ⟨.inr ⟨wake, waiting⟩, Option.some.inj (Option.ite_none_right_eq_some.1 step).2⟩
  · cases step

/-- What the background work does when a run has ended. -/
theorem actionEnded_cases (time : Nat) (t : Task α) :
    (¬ t.Acting ∧ t.actionEnded time = (t, .quiet))
      ∨ (t.Acting
        ∧ (((t.cancelled = true ∨ t.duty = .once) ∧ t.actionEnded time = (t.finish, .ends))
          ∨ (t.cancelled = false ∧ t.duty ≠ .once
            ∧ ∃ wake, t.actionEnded time = ({ t with phase := .waiting wake }, .quiet)))) := by
  obtain ⟨name, duty, action, state, cancelled, phase, served, runs⟩ := t
  cases phase with
  | acting delay =>
    refine .inr ⟨⟨delay, rfl⟩, ?_⟩
    cases duty with
    | once => exact .inl ⟨.inr rfl, rfl⟩
    | daily schedule clock =>
      cases cancelled with
      | true => exact .inl ⟨.inl rfl, rfl⟩
      | false => exact .inr ⟨rfl, nofun, time + delay, rfl⟩
  | _ => exact .inl ⟨nofun, rfl⟩

/-- The work of a task of one run does not break down by itself. -/
theorem unbroken_of_step? {t' : Task α} {progress : Progress} (once : t.duty = .once)
    (step : t.step? time now = some (t', progress)) : t'.phase ≠ .broken := by
  obtain ⟨-, proceeds⟩ := awake_of_step? step
  rcases proceed_cases time now t with ⟨-, done⟩ | ⟨-, ⟨caughtUp, delay, done⟩ | ⟨daily, -⟩⟩
  · obtain ⟨rfl, -⟩ := Prod.mk.inj (proceeds.symm.trans done)
    nofun
  · obtain ⟨rfl, -⟩ := Prod.mk.inj (proceeds.symm.trans done)
    nofun
  · exact absurd once daily

theorem unbroken_actionEnded (time : Nat) (once : t.duty = .once) (whole : t.phase ≠ .broken) :
    (t.actionEnded time).1.phase ≠ .broken := by
  rcases actionEnded_cases time t with ⟨-, done⟩ | ⟨-, ⟨-, done⟩ | ⟨-, daily, -⟩⟩
  · rw [done]
    exact whole
  · rw [done]
    nofun
  · exact absurd once daily

end Task

/-! ## The tasks of a scheduler -/

namespace Scheduler

variable {α : Type} {number : Nat}

theorem task?_build (s : Scheduler α) (t : Task α) (n : Nat) :
    (s.build t).task? n = if n = s.tasks.length then some t else s.task? n := by
  unfold build task?
  rw [List.getElem?_append]
  grind

theorem task?_modify (s : Scheduler α) (number : Nat) (f : Task α → Task α) (n : Nat) :
    (s.modify number f).task? n = if number = n then (s.task? n).map f else s.task? n := by
  unfold modify task?
  rw [List.getElem?_modify]
  split <;> simp

theorem task?_register (s : Scheduler α) (number n : Nat) :
    (s.register number).2.task? n = s.task? n := by
  unfold register
  split
  · rfl
  · split <;> rfl

theorem stopNamed_eq (s : Scheduler α) (name : String) :
    (s.stopNamed name).2 = (s.registry.find? name).toList.foldl stop s := by
  unfold stopNamed
  cases s.registry.find? name <;> rfl

/-- Every task of the given numbers is stopped. -/
theorem task?_foldl_stop (numbers : List Nat) (s : Scheduler α) (n : Nat) :
    (numbers.foldl stop s).task? n
      = if n ∈ numbers then (s.task? n).map Task.stop else s.task? n := by
  induction numbers generalizing s with
  | nil => simp
  | cons number later ih =>
    rw [List.foldl_cons, ih, stop, task?_modify]
    by_cases here : number = n
    · subst here
      cases s.task? number <;> simp [Task.stop]
    · simp [here, Ne.symm here]

theorem task?_settleStep (s : Scheduler α) (number : Nat) (t : Task α) (progress : Progress)
    (n : Nat) :
    (s.settleStep number t progress).task? n
      = if number = n then (s.task? n).map fun _ => t else s.task? n := by
  rw [← task?_modify]
  unfold settleStep
  split <;> rfl

theorem breakDown_settleStep (s : Scheduler α) (number : Nat) (t : Task α) :
    (s.settleStep number t .acts).breakDown number = s.settleStep number t.breakDown .quiet := by
  have once : (s.tasks.modify number fun _ => t).modify number Task.breakDown
      = s.tasks.modify number fun _ => t.breakDown := List.modify_modify_eq ..
  unfold settleStep breakDown modify
  dsimp only
  rw [once]

theorem step?_eq_none {s : Scheduler α} {time : Nat} {now : Instant} {t : Task α}
    (rests : s.step? time now number = none) (found : s.task? number = some t) :
    t.step? time now = none := by
  rw [step?, found] at rests
  cases moved : t.step? time now with
  | none => rfl
  | some => simp [moved] at rests

theorem step?_eq_some {s s' : Scheduler α} {time : Nat} {now : Instant} {progress : Progress}
    (step : s.step? time now number = some (s', progress)) :
    ∃ t t', s.task? number = some t ∧ t.step? time now = some (t', progress)
      ∧ s' = s.settleStep number t' progress := by
  obtain ⟨t, found, step⟩ := Option.bind_eq_some_iff.1 step
  obtain ⟨⟨t', _⟩, moved, settled⟩ := Option.bind_eq_some_iff.1 step
  obtain ⟨rfl, rfl⟩ := Prod.mk.inj (Option.some.inj settled)
  exact ⟨t, t', found, moved, rfl⟩

theorem evaluate_eq_some {s s' : Scheduler α} {now : Instant} {decision : FireDecision}
    (evaluated : s.evaluate now number = some (some (decision, s'))) :
    ∃ t caughtUp, s.task? number = some t
      ∧ s' = s.modify number fun _ => { t with caughtUp } := by
  unfold evaluate at evaluated
  split at evaluated
  · cases evaluated
  · rename_i t found
    split at evaluated
    · cases evaluated
    · rename_i schedule clock daily
      obtain ⟨⟨_, t'⟩, read, same⟩ := Option.map_eq_some_iff.1 (Option.some.inj evaluated)
      obtain ⟨reading, -, fired⟩ := Option.map_eq_some_iff.1 read
      obtain ⟨-, rfl⟩ := Prod.mk.inj same
      obtain ⟨-, rfl⟩ := Prod.mk.inj fired
      exact ⟨t, _, found, rfl⟩

end Scheduler

/-! ## What changes for one task -/

/-- What there is to see of one task. -/
structure Watch (α : Type) where
  task? : Option (Task α)
  flights : List RunInFlight
  begins : Nat

namespace Watch

variable {α : Type}

/-- What changes for a task through others. -/
inductive Call : Watch α → Watch α → Prop
  | keep (w : Watch α) : Call w w
  | build (name : String) (duty : Duty) (action : α) (flights : List RunInFlight) (begins : Nat) :
    Call ⟨none, flights, begins⟩ ⟨some { name, duty, action }, flights, begins⟩
  | stop (t : Task α) (flights : List RunInFlight) (begins : Nat) :
    Call ⟨some t, flights, begins⟩ ⟨some t.stop, flights, begins⟩
  | evaluate (t : Task α) (caughtUp : Option Date) (flights : List RunInFlight) (begins : Nat) :
    Call ⟨some t, flights, begins⟩ ⟨some { t with caughtUp }, flights, begins⟩
  | land (task? : Option (Task α)) (flight : RunInFlight) (flights : List RunInFlight)
      (begins : Nat) :
    Call ⟨task?, flights, begins⟩ ⟨task?, flights.erase flight, begins⟩

/-- What changes for a task through a step of its background work. -/
inductive Work : Watch α → Watch α → Prop
  | keep (w : Watch α) : Work w w
  | finish (t : Task α) (flights : List RunInFlight) (begins : Nat)
      (free : t.Awake ∨ t.Acting ∧ flights = []) (due : t.cancelled = true ∨ t.duty = .once) :
    Work ⟨some t, flights, begins⟩ ⟨some t.finish, flights, begins⟩
  | breakDown (t : Task α) (caughtUp : Option Date) (runs : Nat) (flights : List RunInFlight)
      (begins : Nat) (awake : t.Awake) (going : t.cancelled = false) :
    Work ⟨some t, flights, begins⟩
      ⟨some ({ t with caughtUp, runs } : Task α).breakDown, flights, begins⟩
  | wait (t : Task α) (caughtUp : Option Date) (wake : Nat) (flights : List RunInFlight)
      (begins : Nat) (free : t.Awake ∨ t.Acting ∧ flights = []) (daily : t.duty ≠ .once) :
    Work ⟨some t, flights, begins⟩
      ⟨some { t with caughtUp, phase := .waiting wake }, flights, begins⟩
  | act (t : Task α) (caughtUp : Option Date) (delay : Nat) (flight : RunInFlight)
      (flights : List RunInFlight) (begins : Nat) (awake : t.Awake)
      (going : t.cancelled = false) :
    Work ⟨some t, flights, begins⟩
      ⟨some ({ t with caughtUp }.act delay), flights ++ [flight], begins + 1⟩

end Watch

namespace Deed

variable {α : Type}

/-- The task whose background work makes a step. -/
def worker? : Deed α → Option Nat
  | .wake number _ => some number
  | .resume number => some number
  | _ => none

end Deed

namespace Rota

variable {α σ : Type} {perform : Performer α σ} {r : Rota α σ} {e : Happening α} {n : Nat}

/-- What there is to see of a task. -/
def watch (r : Rota α σ) (n : Nat) : Watch α :=
  ⟨r.task? n, r.flights n, r.begins n⟩

theorem watch_of_task? {t : Task α} (found : r.task? n = some t) :
    r.watch n = ⟨some t, r.flights n, r.begins n⟩ := by
  rw [watch, found]

theorem launch?_eq_some :
    r.launch? e = some n ↔ r.called? e = some n
      ∧ ∃ t, r.task? n = some t ∧ t.state = .registered ∧ t.cancelled = false := by
  unfold launch?
  simp only [Option.filter_eq_some_iff, Option.any_eq_true, decide_eq_true_iff]

theorem watch_schedule {f : Scheduler α → Scheduler α} {task? : Option (Task α)}
    (h : (f r.line.scheduler).task? n = task?) :
    (r.schedule f).watch n = ⟨task?, r.flights n, r.begins n⟩ := by
  rw [← h]
  rfl

/-- Where somebody is called to start, only that task is concerned. -/
theorem watch_of_called {number : Nat} (called : r.called? e = some number) :
    (r.happen perform e).watch n
      = ⟨if number = n then (r.task? n).map Task.start else r.task? n, r.flights n,
        r.begins n⟩ := by
  obtain ⟨leads, deed⟩ := e
  cases deed with
  | start m =>
    obtain rfl := Option.some.inj called
    exact watch_schedule (Scheduler.task?_modify _ m Task.start n)
  | turn round =>
    obtain ⟨led, called⟩ := Option.ite_none_right_eq_some.1 called
    obtain ⟨turn, opened, first⟩ := Option.bind_eq_some_iff.1 called
    obtain ⟨later, rfl⟩ := List.head?_eq_some_iff.1 first
    have started : (r.line.scheduler.startIfLeading (fun _ => leads) number).task? n
        = if number = n then (r.task? n).map Task.start else r.task? n := by
      unfold Scheduler.startIfLeading
      rw [if_pos led]
      exact Scheduler.task?_modify _ number Task.start n
    simp only [happen, opened]
    exact watch_schedule (f := fun s => s.startIfLeading (fun _ => leads) number) started
  | _ => cases called

theorem watch_of_launch (perform : Performer α σ) (launch : r.launch? e = some n) :
    ∃ t, r.task? n = some t ∧ t.state = .registered ∧ t.cancelled = false
      ∧ (r.happen perform e).watch n
        = ⟨some { t with state := .running, phase := .ready }, r.flights n, r.begins n⟩ := by
  obtain ⟨called, t, found, registered, going⟩ := launch?_eq_some.1 launch
  refine ⟨t, found, registered, going, ?_⟩
  rw [watch_of_called called, if_pos rfl, found, Option.map_some, Task.start,
    if_pos ⟨registered, going⟩]

theorem calls_of_called {number : Nat} (called : r.called? e = some number)
    (idle : r.launch? e ≠ some n) :
    (r.watch n).Call ((r.happen perform e).watch n) := by
  suffices same : (r.happen perform e).watch n = r.watch n by
    rw [same]
    exact .keep _
  rw [watch_of_called called]
  split
  · subst number
    have stays : ∀ t, r.task? n = some t → t.start = t := by
      intro t found
      refine if_neg ?_
      rintro ⟨registered, going⟩
      exact idle (launch?_eq_some.2 ⟨called, t, found, registered, going⟩)
    unfold watch
    cases found : r.task? n with
    | none => rfl
    | some t => rw [Option.map_some, stays t found]
  · rfl

theorem calls_schedule_stop (numbers : Scheduler α → List Nat) :
    (r.watch n).Call ((r.schedule fun s => (numbers s).foldl Scheduler.stop s).watch n) := by
  rw [watch_schedule (Scheduler.task?_foldl_stop _ _ n)]
  unfold watch task?
  split
  · cases r.line.scheduler.task? n with
    | none => exact .keep _
    | some t => exact .stop t _ _
  · exact .keep _

theorem calls_turn {round : Nat} {leads : Bool}
    (idle : r.launch? ⟨leads, .turn round⟩ ≠ some n) :
    (r.watch n).Call ((r.happen perform ⟨leads, .turn round⟩).watch n) := by
  cases called : r.called? ⟨leads, .turn round⟩ with
  | some number => exact calls_of_called called idle
  | none =>
    simp only [happen]
    split
    · rename_i number later opened
      simp only [called?, opened, Option.bind_some, List.head?_cons] at called
      cases leads with
      | true => cases called
      | false => exact .keep _
    · exact .keep _

theorem calls_evaluate {number : Nat} {leads : Bool} {reading : Instant} :
    (r.watch n).Call ((r.happen perform ⟨leads, .evaluate number reading⟩).watch n) := by
  simp only [happen]
  split
  · rename_i decision s' evaluated
    obtain ⟨t, caughtUp, found, rfl⟩ := Scheduler.evaluate_eq_some evaluated
    rw [watch_schedule (f := fun _ => _) (Scheduler.task?_modify _ _ _ n)]
    split
    · subst number
      unfold watch
      rw [show r.task? n = some t from found, found]
      exact .evaluate t caughtUp _ _
    · exact .keep _
  · exact .keep _

theorem begins_land (l : Timeline α σ) (rounds : List (List Nat)) (flight : RunInFlight) :
    (Rota.mk (l.land flight) rounds).begins n = (Rota.mk l rounds).begins n := by
  unfold begins Timeline.land
  dsimp only
  split
  · rw [List.countP_cons_of_neg (by simp)]
  · rfl

theorem calls_land {flight : RunInFlight} {leads : Bool} :
    (r.watch n).Call ((r.happen perform ⟨leads, .land flight⟩).watch n) := by
  simp only [happen]
  split
  · have landed : (Rota.mk (r.line.land flight) r.rounds).watch n
        = ⟨r.task? n, (r.flights n).erase flight, r.begins n⟩ := by
      rw [← begins_land, flights, List.erase_filter]
      rfl
    rw [landed]
    exact .land _ flight _ _
  · exact .keep _

/-! ## Steps of the background work -/

/-- Puts the outcome of a step of background work into place. -/
def settle (r : Rota α σ) (number : Nat) (t : Task α) (progress : Progress) : Rota α σ :=
  r.schedule fun s => s.settleStep number t progress

/-- A run begins, and takes effect. -/
def takeOff (r : Rota α σ) (flight : RunInFlight) (world : σ) : Rota α σ :=
  { r with line := { r.line with
      world
      inFlight := r.line.inFlight ++ [flight]
      events := ⟨r.line.time, flight.number, flight.run, false⟩ :: r.line.events } }

/-- The call of an action has taken effect, and nothing else has come of it. -/
def inWorld (r : Rota α σ) (world : σ) : Rota α σ :=
  { r with line := { r.line with world } }

/-- The call of a task's action panics. -/
def CallPanics (perform : Performer α σ) (r : Rota α σ) (t : Task α) : Prop :=
  (perform t.action t.runs r.line.now r.line.world).1 = none

instance (perform : Performer α σ) (r : Rota α σ) (t : Task α) :
    Decidable (r.CallPanics perform t) :=
  decidable_of_iff _ Option.isNone_iff_eq_none

/-- What comes of a step of a task's background work at a reading of its clock. -/
inductive Wakes (perform : Performer α σ) (r : Rota α σ) (n : Nat) (reading : Instant) :
    Rota α σ → Prop
  | keep (asleep : ∀ t, r.task? n = some t → t.step? r.line.time reading = none) :
    Wakes perform r n reading r
  | settle {t t' : Task α} {progress : Progress} (found : r.task? n = some t)
      (step : t.step? r.line.time reading = some (t', progress)) (rests : progress ≠ .acts) :
    Wakes perform r n reading (r.settle n t' progress)
  | act {t t' : Task α} {flight : RunInFlight} {world : σ} (found : r.task? n = some t)
      (step : t.step? r.line.time reading = some (t', .acts)) (runs : ¬ r.CallPanics perform t)
      (own : flight.number = n) :
    Wakes perform r n reading ((r.settle n t' .acts).takeOff flight world)
  | panic {t t' : Task α} {world : σ} (found : r.task? n = some t)
      (step : t.step? r.line.time reading = some (t', .acts)) (panics : r.CallPanics perform t) :
    Wakes perform r n reading ((r.settle n t'.breakDown .quiet).inWorld world)

theorem wakes_beginRun (perform : Performer α σ) {reading : Instant} {t t' : Task α}
    (found : r.task? n = some t) (step : t.step? r.line.time reading = some (t', .acts)) :
    r.Wakes perform n reading
      { r with line := (r.settle n t' .acts).line.beginRun perform n } := by
  obtain ⟨-, caughtUp, delay, called⟩ := Task.act_of_proceed (Task.awake_of_step? step).2
  have found' : (r.settle n t' .acts).line.scheduler.task? n = some t' := by
    rw [settle, schedule, Scheduler.task?_settleStep, if_pos rfl,
      show r.line.scheduler.task? n = _ from found, Option.map_some]
  cases performed : perform t.action t.runs r.line.now r.line.world with
  | mk outcome world =>
    have performed' : perform t'.action (t'.runs - 1) (r.settle n t' .acts).line.now
        (r.settle n t' .acts).line.world = (outcome, world) := by
      subst called
      exact performed
    simp only [Timeline.beginRun, found', performed']
    cases outcome with
    | some outcome => exact .act found step (by simp [CallPanics, performed]) rfl
    | none =>
      have panics : r.CallPanics perform t := by simp [CallPanics, performed]
      have broken : r.Wakes perform n reading ((r.settle n t'.breakDown .quiet).inWorld world) :=
        .panic found step panics
      rw [inWorld, settle, schedule, ← Scheduler.breakDown_settleStep] at broken
      exact broken

theorem wakes_happen (perform : Performer α σ) (r : Rota α σ) (leads : Bool) (n : Nat)
    (reading : Instant) :
    r.Wakes perform n reading (r.happen perform ⟨leads, .wake n reading⟩) := by
  simp only [happen]
  cases woken : r.line.wake? perform reading n with
  | none =>
    exact .keep fun t found => Scheduler.step?_eq_none (Option.map_eq_none_iff.1 woken) found
  | some line =>
    obtain ⟨⟨s', progress⟩, step, rfl⟩ := Option.map_eq_some_iff.1 woken
    obtain ⟨t, t', found, moved, rfl⟩ := Scheduler.step?_eq_some step
    cases progress with
    | acts => exact wakes_beginRun perform found moved
    | quiet | ends => exact .settle found moved (by decide)

theorem happen_resume (perform : Performer α σ) (r : Rota α σ) (leads : Bool) (number : Nat) :
    r.happen perform ⟨leads, .resume number⟩ = r
      ∨ ∃ t, r.task? number = some t ∧ r.flights number = []
        ∧ r.happen perform ⟨leads, .resume number⟩
          = r.settle number (t.actionEnded r.line.time).1 (t.actionEnded r.line.time).2 := by
  simp only [happen]
  split
  · rename_i landed
    have clear : r.flights number = [] := by
      refine List.filter_eq_nil_iff.2 ?_
      intro flight mem
      simpa using landed flight mem
    cases found : r.line.scheduler.task? number with
    | none =>
      refine .inl ?_
      simp only [Timeline.resume, Scheduler.actionEnded, found]
    | some t =>
      refine .inr ⟨t, found, clear, ?_⟩
      simp only [settle, schedule, Timeline.resume, Scheduler.actionEnded, found]
  · exact .inl rfl

theorem watch_settle {number : Nat} {t : Task α} (found : r.task? number = some t) (t' : Task α)
    (progress : Progress) :
    (r.settle number t' progress).watch n
      = if number = n then ⟨some t', r.flights n, r.begins n⟩ else r.watch n := by
  rw [settle, watch_schedule (Scheduler.task?_settleStep _ number t' progress n)]
  split
  · subst number
    rw [show r.line.scheduler.task? n = some t from found, Option.map_some]
  · rfl

theorem task?_settle {t : Task α} (found : r.task? n = some t) (t' : Task α)
    (progress : Progress) : (r.settle n t' progress).task? n = some t' := by
  have settled := congrArg Watch.task? (watch_settle (n := n) found t' progress)
  rwa [if_pos rfl] at settled

theorem watch_takeOff (r : Rota α σ) (flight : RunInFlight) (world : σ) :
    (r.takeOff flight world).watch n
      = if flight.number = n then ⟨r.task? n, r.flights n ++ [flight], r.begins n + 1⟩
        else r.watch n := by
  simp only [takeOff, watch, flights, begins, List.filter_append, List.countP_cons]
  by_cases own : flight.number = n <;> simp [own, task?]

theorem watch_inWorld (r : Rota α σ) (world : σ) : (r.inWorld world).watch n = r.watch n := rfl

/-- A step of another task's background work does not concern a task. -/
theorem watch_wake_of_ne {number : Nat} {leads : Bool} {reading : Instant} (other : number ≠ n) :
    (r.happen perform ⟨leads, .wake number reading⟩).watch n = r.watch n := by
  have wakes := wakes_happen perform r leads number reading
  generalize r.happen perform ⟨leads, .wake number reading⟩ = r' at wakes ⊢
  cases wakes with
  | keep => rfl
  | settle found => rw [watch_settle found, if_neg other]
  | act found step runs own =>
    rw [watch_takeOff, own, if_neg other, watch_settle found, if_neg other]
  | panic found => rw [watch_inWorld, watch_settle found, if_neg other]

theorem watch_resume_of_ne {number : Nat} {leads : Bool} (other : number ≠ n) :
    (r.happen perform ⟨leads, .resume number⟩).watch n = r.watch n := by
  rcases happen_resume perform r leads number with same | ⟨t, found, -, made⟩
  · rw [same]
  · rw [made, watch_settle found, if_neg other]

theorem works_wake {leads : Bool} {reading : Instant} :
    (r.watch n).Work ((r.happen perform ⟨leads, .wake n reading⟩).watch n) := by
  have wakes := wakes_happen perform r leads n reading
  generalize r.happen perform ⟨leads, .wake n reading⟩ = r' at wakes ⊢
  cases wakes with
  | keep => exact .keep _
  | @settle t t' progress found step rests =>
    rw [watch_settle found, if_pos rfl, watch_of_task? found]
    obtain ⟨awake, proceeds⟩ := Task.awake_of_step? step
    rcases Task.proceed_cases r.line.time reading t with
      ⟨cancelled, done⟩ | ⟨going, ⟨caughtUp, delay, done⟩ | ⟨daily, ⟨caughtUp, wake, done⟩ | done⟩⟩
      <;> obtain ⟨rfl, rfl⟩ := Prod.mk.inj (proceeds.symm.trans done)
    · exact .finish t _ _ (.inl awake) (.inl cancelled)
    · exact absurd rfl rests
    · exact .wait t caughtUp wake _ _ (.inl awake) daily
    · exact .breakDown t t.caughtUp t.runs _ _ awake going
  | act found step runs own =>
    obtain ⟨awake, proceeds⟩ := Task.awake_of_step? step
    obtain ⟨going, caughtUp, delay, rfl⟩ := Task.act_of_proceed proceeds
    rw [watch_takeOff, if_pos own, task?_settle found, watch_of_task? found]
    exact .act _ caughtUp delay _ _ _ awake going
  | panic found step =>
    obtain ⟨awake, proceeds⟩ := Task.awake_of_step? step
    obtain ⟨going, caughtUp, delay, rfl⟩ := Task.act_of_proceed proceeds
    rw [watch_inWorld, watch_settle found, if_pos rfl, watch_of_task? found]
    exact .breakDown _ caughtUp _ _ _ awake going

theorem works_resume {leads : Bool} :
    (r.watch n).Work ((r.happen perform ⟨leads, .resume n⟩).watch n) := by
  rcases happen_resume perform r leads n with same | ⟨t, found, clear, made⟩
  · rw [same]
    exact .keep _
  rw [made, watch_settle found, if_pos rfl, watch_of_task? found]
  rcases Task.actionEnded_cases r.line.time t with
    ⟨-, done⟩ | ⟨acting, ⟨due, done⟩ | ⟨-, daily, wake, done⟩⟩ <;> rw [done]
  · exact .keep _
  · exact .finish t _ _ (.inr ⟨acting, clear⟩) due
  · exact .wait t t.caughtUp wake _ _ (.inr ⟨acting, clear⟩) daily

/-! ## Everything that happens -/

/-- What happens to a task that is neither launched nor makes a step itself. -/
theorem calls_happen (idle : r.launch? e ≠ some n) (rests : e.deed.worker? ≠ some n) :
    (r.watch n).Call ((r.happen perform e).watch n) := by
  obtain ⟨leads, deed⟩ := e
  cases deed with
  | build name duty action =>
    show (r.watch n).Call ((r.schedule _).watch n)
    rw [watch_schedule (Scheduler.task?_build _ _ n)]
    split
    · rename_i next
      have fresh : r.task? n = none := List.getElem?_eq_none (Nat.le_of_eq next.symm)
      unfold watch
      rw [fresh]
      exact .build name duty action _ _
    · exact .keep _
  | register number =>
    show (r.watch n).Call ((r.schedule _).watch n)
    rw [watch_schedule (Scheduler.task?_register _ number n)]
    exact .keep _
  | unregister name => exact .keep _
  | start number => exact calls_of_called rfl idle
  | stop number => exact calls_schedule_stop fun _ => [number]
  | stopNamed name =>
    simp only [happen, Scheduler.stopNamed_eq]
    exact calls_schedule_stop fun s => (s.registry.find? name).toList
  | stopAll => exact calls_schedule_stop fun s => s.registry.entries.map (·.number)
  | runAll => exact .keep _
  | turn round => exact calls_turn idle
  | evaluate number reading => exact calls_evaluate
  | wake number reading =>
    rw [watch_wake_of_ne fun same => rests (congrArg some same)]
    exact .keep _
  | land flight => exact calls_land
  | resume number =>
    rw [watch_resume_of_ne fun same => rests (congrArg some same)]
    exact .keep _
  | pass millis => exact .keep _

/-- What happens to a task through a step of its own background work. -/
theorem works_happen (works : e.deed.worker? = some n) :
    (r.watch n).Work ((r.happen perform e).watch n) := by
  obtain ⟨leads, deed⟩ := e
  cases deed with
  | wake number reading =>
    obtain rfl := Option.some.inj works
    exact works_wake
  | resume number =>
    obtain rfl := Option.some.inj works
    exact works_resume
  | _ => cases works

end Rota

end Latchkey

import Latchkey.Schedule.Daily

set_option autoImplicit false

/-! # Scheduled tasks

A task has a name, an action and a duty: to run the action once, or daily. Starting a task launches
its background work, which goes from one suspension point to the next: it calls the action, hands
over the run that comes of the call and waits for it to end, or waits for the next slot. Where there
is no run, because the call panics, the background work breaks down. Stopping a task marks it, and
its background work ends at the next suspension point; a run that was already handed over still goes
on to its end. -/

namespace Latchkey

/-! ## Types -/

/-- The life of a task. -/
inductive TaskState
  | registered
  | running
  | stopped
deriving DecidableEq, Repr

/-- The name of a state. -/
def TaskState.toText : TaskState → String
  | .registered => "Registered"
  | .running => "Running"
  | .stopped => "Stopped"

/-- When a task runs its action. -/
inductive Duty
  /-- Once, right after the start. -/
  | once
  /-- Whenever an evaluation of the schedule says so, until it is stopped. -/
  | daily (schedule : DailySchedule) (clock : Clock)

/-- Where the background work of a task stands. Times are milliseconds. -/
inductive Phase
  /-- Not launched yet. -/
  | idle
  /-- Launched, before its first step. -/
  | ready
  /-- Waiting for the action to end, after which it is to wait for `delay`. -/
  | acting (delay : Nat)
  /-- Waiting until a time. -/
  | waiting (wake : Nat)
  /-- Ended. -/
  | over
  /-- Broken down on the way. -/
  | broken
deriving DecidableEq, Repr

/-- A task whose action is described by an `α`. -/
structure Task (α : Type) where
  name : String
  duty : Duty
  action : α
  state : TaskState := .registered
  cancelled : Bool := false
  phase : Phase := .idle
  /-- The date of the last slot that was served. -/
  caughtUp : Option Date := none
  /-- How often the action was called. -/
  runs : Nat := 0

/-- What a step of the background work did, as far as others notice. -/
inductive Progress
  /-- It went on to wait, or broke down. -/
  | quiet
  /-- It called the action. -/
  | acts
  /-- It came to its end. -/
  | ends
deriving DecidableEq, Repr

namespace Task

variable {α : Type}

/-! ## Commands -/

/-- Launches the background work, unless the task was started or stopped before. -/
def start (t : Task α) : Task α :=
  if t.state = .registered ∧ t.cancelled = false then
    { t with state := .running, phase := .ready }
  else t

/-- Stops the task. -/
def stop (t : Task α) : Task α :=
  { t with cancelled := true, state := .stopped }

/-- The schedule of a daily task. -/
def schedule? (t : Task α) : Option DailySchedule :=
  match t.duty with
  | .once => none
  | .daily schedule _ => some schedule

/-- Evaluates a daily schedule on a clock once; fails where the clock cannot be read. -/
def evaluateOn (schedule : DailySchedule) (clock : Clock) (now : Instant) (t : Task α) :
    Option (FireDecision × Task α) :=
  (clock.read? now).map fun reading =>
    let (decision, caughtUp) := schedule.nextFire reading t.caughtUp
    (decision, { t with caughtUp := caughtUp })

/-! ## Background work -/

/-- Calls the action; afterwards the work is to wait for `delay`. -/
def act (delay : Nat) (t : Task α) : Task α :=
  { t with phase := .acting delay, runs := t.runs + 1 }

/-- Ends the background work. -/
def finish (t : Task α) : Task α :=
  { t with phase := .over, state := .stopped }

/-- Breaks the background work down. What comes after the work is not done then, so that the state of
    the task stays as it is. -/
def breakDown (t : Task α) : Task α :=
  { t with phase := .broken }

/-- What the work does when it is awake: a stopped task ends; a task of one run acts; a daily task
    evaluates its schedule and acts or waits. -/
def proceed (time : Nat) (now : Instant) (t : Task α) : Task α × Progress :=
  if t.cancelled then (t.finish, .ends)
  else
    match t.duty with
    | .once => (t.act 0, .acts)
    | .daily schedule clock =>
      match t.evaluateOn schedule clock now with
      | none => (t.breakDown, .quiet)
      | some (decision, t) =>
        if decision.runNow then (t.act decision.delay, .acts)
        else ({ t with phase := .waiting (time + decision.delay) }, .quiet)

/-- The step of the background work at a time, when the wall clock reads `now`, if it has one to
    make. -/
def step? (time : Nat) (now : Instant) (t : Task α) : Option (Task α × Progress) :=
  match t.phase with
  | .ready => some (t.proceed time now)
  | .waiting wake => if t.cancelled || wake ≤ time then some (t.proceed time now) else none
  | _ => none

/-- The step of the background work when its action has ended, in success or not. -/
def actionEnded (time : Nat) (t : Task α) : Task α × Progress :=
  match t.phase with
  | .acting delay =>
    match t.duty with
    | .once => (t.finish, .ends)
    | .daily _ _ =>
      if t.cancelled then (t.finish, .ends)
      else ({ t with phase := .waiting (time + delay) }, .quiet)
  | _ => (t, .quiet)

/-- The time for which the background work waits, if it does. -/
def wake? (t : Task α) : Option Nat :=
  match t.phase with
  | .waiting wake => some wake
  | _ => none

/-! ## Small laws -/

@[simp] theorem name_start (t : Task α) : t.start.name = t.name := by
  unfold start; split <;> rfl

@[simp] theorem name_stop (t : Task α) : t.stop.name = t.name := rfl

theorem state_stop (t : Task α) : t.stop.state = .stopped := rfl

/-- A stopped task cannot be started again. -/
theorem start_stop (t : Task α) : t.stop.start = t.stop := by
  simp [start, stop]

end Task

end Latchkey

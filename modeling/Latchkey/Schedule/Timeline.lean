import Latchkey.Schedule.Scheduler

set_option autoImplicit false

/-! # Timelines

A timeline runs the background work of a scheduler in virtual time, which counts milliseconds from a
start on the wall clock. Whatever is due at a time is done before the time goes on, and the time
goes on to the next moment at which anything is due. An action takes effect when it is called, and
the run that comes of the call ends a while later. -/

namespace Latchkey

/-- How a run of an action goes. -/
structure ActionOutcome where
  /-- Milliseconds until it ends. -/
  duration : Nat := 0
  succeeds : Bool := true
deriving DecidableEq, Repr

/-- The beginning or the successful end of a run. -/
structure RunEvent where
  time : Nat
  number : Nat
  run : Nat
  isEnd : Bool
deriving DecidableEq, Repr

/-- A run that has begun and not ended. -/
structure RunInFlight where
  number : Nat
  run : Nat
  due : Nat
  succeeds : Bool
deriving DecidableEq, Repr

/-- A scheduler in virtual time, together with the state `σ` that actions work on. -/
structure Timeline (α σ : Type) where
  start : Instant
  world : σ
  scheduler : Scheduler α := {}
  time : Nat := 0
  inFlight : List RunInFlight := []
  /-- What happened, the latest first. -/
  events : List RunEvent := []

/-- What an action does when it is called for its `run`-th run, at an instant. There is no outcome
    where the call panics before there is a run. -/
abbrev Performer (α σ : Type) := α → Nat → Instant → σ → Option ActionOutcome × σ

namespace Timeline

variable {α σ : Type}

/-- The instant that is a number of milliseconds after another. -/
def afterMillis (start : Instant) (time : Nat) : Instant :=
  start.addSaturating ⟨time / 1000, time % 1000 * 1000000⟩

/-- What the wall clock reads. -/
def now (l : Timeline α σ) : Instant :=
  afterMillis l.start l.time

/-- Begins the run of a task's action that was just called. If the call panics, the background work
    breaks down. -/
def beginRun (perform : Performer α σ) (l : Timeline α σ) (number : Nat) : Timeline α σ :=
  match l.scheduler.task? number with
  | none => l
  | some task =>
    let run := task.runs - 1
    match perform task.action run l.now l.world with
    | (some outcome, world) =>
      { l with
        world := world
        inFlight := l.inFlight ++ [⟨number, run, l.time + outcome.duration, outcome.succeeds⟩]
        events := ⟨l.time, number, run, false⟩ :: l.events }
    | (none, world) => { l with world := world, scheduler := l.scheduler.breakDown number }

/-- Ends a run. -/
def endRun (l : Timeline α σ) (flight : RunInFlight) : Timeline α σ :=
  { l with
    scheduler := l.scheduler.actionEnded l.time flight.number
    inFlight := l.inFlight.erase flight
    events :=
      if flight.succeeds then ⟨l.time, flight.number, flight.run, true⟩ :: l.events else l.events }

/-- Does the first thing that is due, if anything is. -/
def step? (perform : Performer α σ) (l : Timeline α σ) : Option (Timeline α σ) :=
  match l.inFlight.find? fun flight => flight.due ≤ l.time with
  | some flight => some (l.endRun flight)
  | none =>
    (List.range l.scheduler.tasks.length).findSome? fun number =>
      (l.scheduler.step? l.time l.now number).map fun (scheduler, progress) =>
        let l := { l with scheduler := scheduler }
        match progress with
        | .acts => l.beginRun perform number
        | _ => l

/-- The next time at which anything is due. -/
def nextTime? (l : Timeline α σ) : Option Nat :=
  (l.inFlight.map (·.due) ++ l.scheduler.tasks.filterMap Task.wake?).min?

/-- Runs on until a time, doing everything that is due by then, in at most so many steps. -/
def runUntil (perform : Performer α σ) (target : Nat) : Nat → Timeline α σ → Timeline α σ
  | 0, l => l
  | fuel + 1, l =>
    match l.step? perform with
    | some l => runUntil perform target fuel l
    | none =>
      match l.nextTime? with
      | some time =>
        if time ≤ target then runUntil perform target fuel { l with time := max l.time time }
        else { l with time := max l.time target }
      | none => { l with time := max l.time target }

/-- Steps enough for a number of milliseconds: at each of them a task wakes, acts and waits again at
    most once, as long as no wait is empty. -/
def steps (l : Timeline α σ) (millis : Nat) : Nat :=
  (millis + 1) * (4 * l.scheduler.tasks.length + 4)

/-- Lets a number of milliseconds pass. -/
def advance (perform : Performer α σ) (millis : Nat) (l : Timeline α σ) : Timeline α σ :=
  l.runUntil perform (l.time + millis) (l.steps millis)

/-- Does everything that is due now. -/
def settle (perform : Performer α σ) (l : Timeline α σ) : Timeline α σ :=
  l.advance perform 0

end Timeline

end Latchkey

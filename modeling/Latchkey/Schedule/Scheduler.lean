import Latchkey.Schedule.Registry
import Latchkey.Schedule.Task

set_option autoImplicit false

/-! # The scheduler

The scheduler knows every task that was ever built, by number, and lists some of them in its
registry. Starting all listed tasks asks an elector before each one whether this process leads, and
leaves the task alone if it does not. The background work of a task that runs once takes the task's
name out of the registry when it ends. -/

namespace Latchkey

/-- Whether this process leads, by the number of the question. -/
abbrev Elector := Nat → Bool

/-- The elector of a process that is alone. -/
def Elector.always : Elector := fun _ => true

/-- All tasks, the registry, and how often the elector was asked. -/
structure Scheduler (α : Type) where
  tasks : List (Task α) := []
  registry : Registry := {}
  asked : Nat := 0

namespace Scheduler

variable {α : Type}

/-- The scheduler without tasks. -/
def empty : Scheduler α := {}

/-- Adds a task without listing it. Its number is the number of tasks before it. -/
def build (s : Scheduler α) (task : Task α) : Scheduler α :=
  { s with tasks := s.tasks ++ [task] }

/-- The task of a number. -/
def task? (s : Scheduler α) (number : Nat) : Option (Task α) :=
  s.tasks[number]?

/-- Changes the task of a number. -/
def modify (s : Scheduler α) (number : Nat) (f : Task α → Task α) : Scheduler α :=
  { s with tasks := s.tasks.modify number f }

/-! ## Listing -/

/-- Lists a task; nothing changes if its name is in use. -/
def register (s : Scheduler α) (number : Nat) : Except Error Unit × Scheduler α :=
  match s.task? number with
  | none => (.ok (), s)
  | some task =>
    match s.registry.register ⟨number, task.name⟩ with
    | .ok registry => (.ok (), { s with registry := registry })
    | .error e => (.error e, s)

/-- Adds a task and lists it. -/
def add (s : Scheduler α) (task : Task α) : Except Error Unit × Scheduler α :=
  (s.build task).register s.tasks.length

/-- Removes the listed task of a name. -/
def unregister (s : Scheduler α) (name : String) : Scheduler α :=
  { s with registry := s.registry.unregister name }

/-- Removes the listed task of a name on request. Answers whether the name was in use. -/
def remove (s : Scheduler α) (name : String) : Bool × Scheduler α :=
  (s.registry.contains name, s.unregister name)

/-- The state of a listed task. -/
def state? (s : Scheduler α) (name : String) : Option TaskState :=
  ((s.registry.find? name).bind s.task?).map (·.state)

/-! ## Starting and stopping -/

/-- Starts a task, listed or not. -/
def start (s : Scheduler α) (number : Nat) : Scheduler α :=
  s.modify number Task.start

/-- Stops a task, listed or not. -/
def stop (s : Scheduler α) (number : Nat) : Scheduler α :=
  s.modify number Task.stop

/-- Asks the elector, and starts a task if this process leads. -/
def startIfLeading (elector : Elector) (s : Scheduler α) (number : Nat) : Scheduler α :=
  let s' := { s with asked := s.asked + 1 }
  if elector s.asked then s'.start number else s'

/-- Starts all listed tasks in order, as far as this process leads. -/
def runAll (elector : Elector) (s : Scheduler α) : Scheduler α :=
  (s.registry.entries.map (·.number)).foldl (startIfLeading elector) s

/-- Stops the listed task of a name. -/
def stopNamed (s : Scheduler α) (name : String) : Except Error Unit × Scheduler α :=
  match s.registry.find? name with
  | some number => (.ok (), s.stop number)
  | none => (.error (Registry.notListed name), s)

/-- Stops all listed tasks. -/
def stopAll (s : Scheduler α) : Scheduler α :=
  (s.registry.entries.map (·.number)).foldl stop s

/-! ## Background work -/

/-- Puts the outcome of a step of background work into place. When the work of a task that runs once
    comes to its end, the task's name leaves the registry. -/
def settleStep (s : Scheduler α) (number : Nat) (task : Task α) (progress : Progress) :
    Scheduler α :=
  let s := s.modify number fun _ => task
  match progress, task.duty with
  | .ends, .once => s.unregister task.name
  | _, _ => s

/-- A step of a task's background work at a time, if it has one to make. -/
def step? (s : Scheduler α) (time : Nat) (now : Instant) (number : Nat) :
    Option (Scheduler α × Progress) := do
  let task ← s.task? number
  let (task, progress) ← task.step? time now
  return (s.settleStep number task progress, progress)

/-- The step of a task's background work when its action has ended. -/
def actionEnded (s : Scheduler α) (time : Nat) (number : Nat) : Scheduler α :=
  match s.task? number with
  | none => s
  | some task =>
    let (task, progress) := task.actionEnded time
    s.settleStep number task progress

/-- Breaks the background work of a task down. -/
def breakDown (s : Scheduler α) (number : Nat) : Scheduler α :=
  s.modify number Task.breakDown

/-- Evaluates a daily task's schedule once, outside its background work. The outer result is missing
    for a task without a schedule, the inner one where its clock cannot be read. -/
def evaluate (s : Scheduler α) (now : Instant) (number : Nat) :
    Option (Option (FireDecision × Scheduler α)) :=
  match s.task? number with
  | none => none
  | some task =>
    match task.duty with
    | .once => none
    | .daily schedule clock =>
      some ((task.evaluateOn schedule clock now).map fun (decision, task) =>
        (decision, s.modify number fun _ => task))

end Scheduler

end Latchkey

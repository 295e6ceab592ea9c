import Latchkey.Schedule.Timeline

set_option autoImplicit false

/-! # Rotas

A rota is a timeline on which others act too: between any two steps of the tasks' background work,
callers list tasks, start them and stop them. To start all listed tasks is not one such moment: it
asks the elector before each of them, and others act while it waits for the answer. A history is a
list of what happens, in any order. A start of all listed tasks that nothing interrupts is one
(`Rota.after_round`). -/

namespace Latchkey

namespace Timeline

variable {α σ : Type}

/-! ## Single steps of a timeline -/

/-- A step of a task's background work at a reading of its clock, if it has one to make. -/
def wake? (perform : Performer α σ) (reading : Instant) (number : Nat) (l : Timeline α σ) :
    Option (Timeline α σ) :=
  (l.scheduler.step? l.time reading number).map fun (scheduler, progress) =>
    let l := { l with scheduler := scheduler }
    match progress with
    | .acts => l.beginRun perform number
    | _ => l

/-- A run comes to its end. -/
def land (flight : RunInFlight) (l : Timeline α σ) : Timeline α σ :=
  { l with
    inFlight := l.inFlight.erase flight
    events :=
      if flight.succeeds then ⟨l.time, flight.number, flight.run, true⟩ :: l.events else l.events }

/-- The background work of a task goes on after the end of a run. -/
def resume (number : Nat) (l : Timeline α σ) : Timeline α σ :=
  { l with scheduler := l.scheduler.actionEnded l.time number }

theorem endRun_eq (l : Timeline α σ) (flight : RunInFlight) :
    l.endRun flight = (l.land flight).resume flight.number := rfl

theorem step?_eq (perform : Performer α σ) (l : Timeline α σ) :
    l.step? perform =
      match l.inFlight.find? fun flight => flight.due ≤ l.time with
      | some flight => some (l.endRun flight)
      | none =>
        (List.range l.scheduler.tasks.length).findSome? fun number =>
          l.wake? perform l.now number := rfl

end Timeline

/-! ## What happens on a rota -/

/-- What callers do, what the background work does, and what happens by itself. -/
inductive Deed (α : Type)
  | build (name : String) (duty : Duty) (action : α)
  | register (number : Nat)
  | unregister (name : String)
  | start (number : Nat)
  | stop (number : Nat)
  | stopNamed (name : String)
  | stopAll
  /-- Somebody begins to start all listed tasks. -/
  | runAll
  /-- The next task of such a start has its turn. -/
  | turn (round : Nat)
  /-- A daily schedule is evaluated outside the background work. -/
  | evaluate (number : Nat) (reading : Instant)
  /-- The background work of a task makes a step, at a reading of its clock. -/
  | wake (number : Nat) (reading : Instant)
  /-- A run comes to its end. -/
  | land (flight : RunInFlight)
  /-- The background work of a task goes on after the end of a run. -/
  | resume (number : Nat)
  | pass (millis : Nat)

/-- A deed, and whether the process leads at that moment. -/
structure Happening (α : Type) where
  leads : Bool
  deed : Deed α

/-- A timeline on which others act too. -/
structure Rota (α σ : Type) where
  line : Timeline α σ
  /-- The starts of all listed tasks, each with the numbers whose turn is still to come. -/
  rounds : List (List Nat) := []

namespace Rota

variable {α σ : Type}

/-- The rota without tasks. -/
def opening (start : Instant) (world : σ) : Rota α σ := ⟨{ start, world }, []⟩

/-- Changes the scheduler. -/
def schedule (r : Rota α σ) (f : Scheduler α → Scheduler α) : Rota α σ :=
  { r with line := { r.line with scheduler := f r.line.scheduler } }

/-- Lets a deed happen. -/
def happen (perform : Performer α σ) (r : Rota α σ) (e : Happening α) : Rota α σ :=
  match e.deed with
  | .build name duty action => r.schedule fun s => s.build { name, duty, action }
  | .register number => r.schedule fun s => (s.register number).2
  | .unregister name => r.schedule fun s => s.unregister name
  | .start number => r.schedule fun s => s.start number
  | .stop number => r.schedule fun s => s.stop number
  | .stopNamed name => r.schedule fun s => (s.stopNamed name).2
  | .stopAll => r.schedule fun s => s.stopAll
  | .runAll =>
    { r with rounds := r.rounds ++ [r.line.scheduler.registry.entries.map (·.number)] }
  | .turn round =>
    match r.rounds[round]? with
    | some (number :: later) =>
      { r.schedule fun s => s.startIfLeading (fun _ => e.leads) number with
        rounds := r.rounds.set round later }
    | _ => r
  | .evaluate number reading =>
    match r.line.scheduler.evaluate reading number with
    | some (some (_, s)) => r.schedule fun _ => s
    | _ => r
  | .wake number reading => { r with line := (r.line.wake? perform reading number).getD r.line }
  | .land flight =>
    if flight ∈ r.line.inFlight then { r with line := r.line.land flight } else r
  | .resume number =>
    -- The background work waits for the end of the run that it has begun.
    if ∀ flight ∈ r.line.inFlight, flight.number ≠ number then
      { r with line := r.line.resume number }
    else r
  | .pass millis => { r with line := { r.line with time := r.line.time + millis } }

/-- Lets a history happen. -/
def after (perform : Performer α σ) (r : Rota α σ) (history : List (Happening α)) : Rota α σ :=
  history.foldl (happen perform) r

@[simp] theorem after_nil (perform : Performer α σ) (r : Rota α σ) : r.after perform [] = r := rfl

@[simp] theorem after_cons (perform : Performer α σ) (r : Rota α σ) (e : Happening α)
    (later : List (Happening α)) :
    r.after perform (e :: later) = (r.happen perform e).after perform later := rfl

theorem after_append (perform : Performer α σ) (r : Rota α σ)
    (history later : List (Happening α)) :
    r.after perform (history ++ later) = (r.after perform history).after perform later :=
  List.foldl_append

/-! ## What there is to see of a task -/

/-- The task of a number. -/
def task? (r : Rota α σ) (number : Nat) : Option (Task α) :=
  r.line.scheduler.task? number

/-- The runs of a task that have begun and not ended. -/
def flights (r : Rota α σ) (number : Nat) : List RunInFlight :=
  r.line.inFlight.filter fun flight => flight.number = number

/-- How many runs of a task have begun. -/
def begins (r : Rota α σ) (number : Nat) : Nat :=
  r.line.events.countP fun event => event.number = number ∧ event.isEnd = false

/-- The registry lists a task, or has its name in use. -/
def Lists (r : Rota α σ) (number : Nat) (name : String) : Prop :=
  (∃ entry ∈ r.line.scheduler.registry.entries, entry.number = number ∨ entry.name = name)
    ∨ r.line.scheduler.registry.contains name = true

/-- The task that somebody calls to start, if its turn has come and the process leads where the call
    asks for that. -/
def called? (r : Rota α σ) (e : Happening α) : Option Nat :=
  match e.deed with
  | .start number => some number
  | .turn round => if e.leads then (r.rounds[round]?).bind List.head? else none
  | _ => none

/-- The task whose background work is launched, if one is. -/
def launch? (r : Rota α σ) (e : Happening α) : Option Nat :=
  (r.called? e).filter fun number =>
    (r.task? number).any fun t => t.state = .registered ∧ t.cancelled = false

/-- The tasks whose background work is launched in the course of a history. -/
def launched (perform : Performer α σ) : Rota α σ → List (Happening α) → List Nat
  | _, [] => []
  | r, e :: later => (r.launch? e).toList ++ launched perform (r.happen perform e) later

/-- The tasks that somebody stops. -/
def stopped (r : Rota α σ) (e : Happening α) : List Nat :=
  match e.deed with
  | .stop number => [number]
  | .stopNamed name => (r.line.scheduler.registry.find? name).toList
  | .stopAll => r.line.scheduler.registry.entries.map (·.number)
  | _ => []

/-- The action of a task is handed over. -/
def HandsOver (perform : Performer α σ) (r : Rota α σ) (e : Happening α) (number : Nat) : Prop :=
  r.begins number < (r.happen perform e).begins number

instance (perform : Performer α σ) (r : Rota α σ) (e : Happening α) (number : Nat) :
    Decidable (r.HandsOver perform e number) :=
  inferInstanceAs (Decidable (_ < _))

theorem mem_launched {perform : Performer α σ} {r : Rota α σ} {history : List (Happening α)}
    {number : Nat} :
    number ∈ r.launched perform history ↔ ∃ before e later, history = before ++ e :: later
      ∧ (r.after perform before).launch? e = some number := by
  induction history generalizing r with
  | nil => simp [launched]
  | cons e history ih =>
    rw [launched, List.mem_append, Option.mem_toList, ih]
    constructor
    · rintro (here | ⟨before, e', later, rfl, launches⟩)
      · exact ⟨[], e, history, rfl, here⟩
      · exact ⟨e :: before, e', later, rfl, launches⟩
    · rintro ⟨_ | ⟨first, before⟩, e', later, same, launches⟩
      · obtain ⟨rfl, rfl⟩ := List.cons.inj same
        exact .inl launches
      · obtain ⟨rfl, rfl⟩ := List.cons.inj same
        exact .inr ⟨before, e', later, rfl, launches⟩

/-! ## A start of all listed tasks -/

/-- The turns of a start of all listed tasks, the questions to the elector counted from one on. -/
def turns (elector : Elector) (round asked count : Nat) : List (Happening α) :=
  (List.range' asked count).map fun question => ⟨elector question, .turn round⟩

theorem asked_startIfLeading (elector : Elector) (s : Scheduler α) (number : Nat) :
    (s.startIfLeading elector number).asked = s.asked + 1 := by
  unfold Scheduler.startIfLeading
  split <;> rfl

theorem after_turns (perform : Performer α σ) (elector : Elector) (numbers : List Nat)
    (r : Rota α σ) (round : Nat) (opened : r.rounds[round]? = some numbers) :
    (r.after perform (turns elector round r.line.scheduler.asked numbers.length)).line.scheduler
      = numbers.foldl (Scheduler.startIfLeading elector) r.line.scheduler := by
  induction numbers generalizing r with
  | nil => rfl
  | cons number later ih =>
    let e : Happening α := ⟨elector r.line.scheduler.asked, .turn round⟩
    have scheduler : (r.happen perform e).line.scheduler
        = r.line.scheduler.startIfLeading elector number := by
      simp only [happen, e, opened]
      rfl
    have rounds : (r.happen perform e).rounds = r.rounds.set round later := by
      simp only [happen, e, opened]
    have next := ih (r.happen perform e) (by
      rw [rounds, List.getElem?_set_self (List.getElem?_eq_some_iff.1 opened).1])
    rw [scheduler, asked_startIfLeading] at next
    rw [List.length_cons, turns, List.range'_succ, List.map_cons, after_cons, List.foldl_cons]
    exact next

/-- A start of all listed tasks that nothing interrupts. -/
theorem after_round (perform : Performer α σ) (elector : Elector) (r : Rota α σ) (leads : Bool) :
    (r.after perform (⟨leads, .runAll⟩ :: turns elector r.rounds.length r.line.scheduler.asked
        r.line.scheduler.registry.size)).line.scheduler
      = r.line.scheduler.runAll elector := by
  have asks := after_turns perform elector (r.line.scheduler.registry.entries.map (·.number))
    (r.happen perform ⟨leads, .runAll⟩) r.rounds.length List.getElem?_concat_length
  rw [List.length_map] at asks
  exact asks

end Rota

end Latchkey

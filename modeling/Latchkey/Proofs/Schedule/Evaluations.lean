import Latchkey.Proofs.Time.Instant
import Latchkey.Schedule.Daily
import Mathlib.Data.List.Chain

set_option autoImplicit false

/-! # Evaluations of a daily schedule

A daily task evaluates its schedule again and again, and each evaluation leaves the date last served
to the next. An evaluation is on time, late or early for the slot of its date, and what it decides
follows from that (`nextFire_of_onTime`, `nextFire_of_late`, `nextFire_of_early`). -/

namespace Latchkey

/-- The date after. -/
def Date.next (d : Date) : Date := ⟨d.day + 1⟩

/-- The span of a number of milliseconds. -/
def Span.ofMillis (millis : Nat) : Span := ⟨millis / 1000, millis % 1000 * 1000000⟩

namespace DailySchedule

variable {s : DailySchedule} {now : Instant} {caughtUp : Option Date}

/-! ## One evaluation -/

/-- Seconds from the slot of an instant's date to the instant. -/
def offset (s : DailySchedule) (now : Instant) : Int :=
  now.seconds - s.slot now.date

/-- The instant is close to the slot of its date. -/
def OnTime (s : DailySchedule) (now : Instant) : Prop :=
  -driftTolerance < s.offset now ∧ s.offset now < driftTolerance

/-- The instant is well after the slot of its date. -/
def Late (s : DailySchedule) (now : Instant) : Prop :=
  driftTolerance ≤ s.offset now

/-- The instant is well before the slot of its date. -/
def Early (s : DailySchedule) (now : Instant) : Prop :=
  s.offset now ≤ -driftTolerance

instance (s : DailySchedule) (now : Instant) : Decidable (s.OnTime now) :=
  inferInstanceAs (Decidable (_ ∧ _))

instance (s : DailySchedule) (now : Instant) : Decidable (s.Late now) :=
  inferInstanceAs (Decidable (_ ≤ _))

theorem onTime_or_late_or_early (s : DailySchedule) (now : Instant) :
    s.OnTime now ∨ s.Late now ∨ s.Early now := by
  unfold OnTime Late Early
  omega

/-- An evaluation on time runs the task and asks for one period. -/
theorem nextFire_of_onTime (h : s.OnTime now) :
    s.nextFire now caughtUp = (⟨true, s.period⟩, some now.date) := by
  have near : (s.offset now).natAbs < driftTolerance := by
    unfold OnTime at h
    omega
  exact if_pos near

/-- A late evaluation runs the task if the date was not served yet, and waits for the next slot. -/
theorem nextFire_of_late (h : s.Late now) :
    s.nextFire now caughtUp
      = (⟨caughtUp != some now.date, millis (oneDay - (s.offset now).natAbs)⟩, some now.date) := by
  unfold Late driftTolerance at h
  have far : ¬ (s.offset now).natAbs < driftTolerance := by
    unfold driftTolerance
    omega
  have after : 0 < s.offset now := by omega
  exact (if_neg far).trans (if_pos after)

/-- An early evaluation only waits for the slot of its date. -/
theorem nextFire_of_early (h : s.Early now) :
    s.nextFire now caughtUp = (⟨false, millis (s.offset now).natAbs⟩, caughtUp) := by
  unfold Early driftTolerance at h
  have far : ¬ (s.offset now).natAbs < driftTolerance := by
    unfold driftTolerance
    omega
  have before : ¬ 0 < s.offset now := by omega
  exact (if_neg far).trans (if_neg before)

/-- An evaluation leaves its date as the one last served, or leaves what it found. -/
theorem served_nextFire (s : DailySchedule) (now : Instant) (caughtUp : Option Date) :
    (s.nextFire now caughtUp).2 = some now.date ∨ (s.nextFire now caughtUp).2 = caughtUp := by
  rcases s.onTime_or_late_or_early now with onTime | late | early
  · exact .inl (by rw [nextFire_of_onTime onTime])
  · exact .inl (by rw [nextFire_of_late late])
  · exact .inr (by rw [nextFire_of_early early])

theorem not_early_of_runNow (runs : (s.nextFire now caughtUp).1.runNow = true) :
    ¬ s.Early now := by
  intro early
  rw [nextFire_of_early early] at runs
  cases runs

/-- Where the task is run, the date counts as served afterwards. -/
theorem served_of_runNow (runs : (s.nextFire now caughtUp).1.runNow = true) :
    (s.nextFire now caughtUp).2 = some now.date := by
  rcases s.onTime_or_late_or_early now with onTime | late | early
  · rw [nextFire_of_onTime onTime]
  · rw [nextFire_of_late late]
  · exact absurd early (not_early_of_runNow runs)

end DailySchedule

/-! ## One evaluation after another -/

/-- An evaluation of a daily schedule. -/
structure Evaluation where
  instant : Instant
  decision : FireDecision
deriving DecidableEq, Repr

namespace Evaluation

variable {a b : Evaluation}

/-- The date at which a schedule was evaluated. -/
def date (e : Evaluation) : Date :=
  e.instant.date

/-- The instant for which an evaluation asks to wait, if there is one. -/
def due? (e : Evaluation) : Option Instant :=
  e.instant.add? (.ofMillis e.decision.delay)

/-- The later evaluation comes no sooner than the earlier one has asked for. -/
def Precedes (a b : Evaluation) : Prop :=
  ∃ due, a.due? = some due ∧ due ≤ b.instant

theorem Precedes.seconds_le (h : a.Precedes b) :
    a.instant.seconds + (a.decision.delay / 1000 : Nat) ≤ b.instant.seconds := by
  obtain ⟨due, awaited, reached⟩ := h
  obtain ⟨carry, seconds, -⟩ := Instant.seconds_of_add? awaited
  have := Instant.seconds_le_of_le reached
  simp only [Span.ofMillis] at seconds
  omega

end Evaluation

namespace DailySchedule

variable {s : DailySchedule} {now : Instant} {later : List Instant} {caughtUp : Option Date}

/-- The evaluations of a schedule at some instants, given the date last served before. -/
def evaluations (s : DailySchedule) : Option Date → List Instant → List Evaluation
  | _, [] => []
  | caughtUp, now :: later =>
    let (decision, caughtUp) := s.nextFire now caughtUp
    ⟨now, decision⟩ :: s.evaluations caughtUp later

@[simp] theorem evaluations_nil : s.evaluations caughtUp [] = [] := rfl

theorem evaluations_cons :
    s.evaluations caughtUp (now :: later)
      = ⟨now, (s.nextFire now caughtUp).1⟩ :: s.evaluations (s.nextFire now caughtUp).2 later :=
  rfl

theorem map_instant_evaluations (s : DailySchedule) (caughtUp : Option Date)
    (instants : List Instant) :
    (s.evaluations caughtUp instants).map (·.instant) = instants := by
  induction instants generalizing caughtUp with
  | nil => rfl
  | cons now later ih => rw [evaluations_cons, List.map_cons, ih]

theorem instant_mem_of_mem_evaluations {e : Evaluation} {instants : List Instant}
    (h : e ∈ s.evaluations caughtUp instants) : e.instant ∈ instants := by
  rw [← map_instant_evaluations s caughtUp instants]
  exact List.mem_map_of_mem h

theorem exists_nextFire_of_mem {e : Evaluation} {instants : List Instant}
    (h : e ∈ s.evaluations caughtUp instants) :
    ∃ before, e.decision = (s.nextFire e.instant before).1 := by
  induction instants generalizing caughtUp with
  | nil => simp at h
  | cons now later ih =>
    rw [evaluations_cons] at h
    rcases List.mem_cons.1 h with rfl | h
    · exact ⟨caughtUp, rfl⟩
    · exact ih h

end DailySchedule

end Latchkey

import Latchkey.Proofs.Schedule.Evaluations

set_option autoImplicit false

/-! # Which slots are served

Where each evaluation comes less than the drift tolerance later than the one before has asked for,
it lands at most twice the tolerance after a slot. If that is still the date of the slot, the first
evaluation on every date runs the task. If it can be the next date, the evaluation is taken for an
early one of that date and the slot is passed over. So a daily task serves the slots of all dates
exactly if its time of day is 23:59:00 at the latest (`DailySchedule.serves_every_slot_iff`). -/

namespace Latchkey

namespace Evaluation

/-- The later evaluation comes when the earlier one has asked for, or less than the drift tolerance
    after that. -/
def Punctual (a b : Evaluation) : Prop :=
  ∃ due, a.due? = some due ∧ due ≤ b.instant
    ∧ due.secondsUntil b.instant < DailySchedule.driftTolerance

variable {a b : Evaluation} {seconds : Nat}

/-- Waiting whole seconds changes the seconds of an instant only. -/
theorem due?_eq (asked : a.decision.delay = DailySchedule.millis seconds)
    (proper : a.instant.nanos < Instant.nanosPerSecond) :
    a.due? = if Instant.inRange (a.instant.seconds + seconds) then
      some ⟨a.instant.seconds + seconds, a.instant.nanos⟩ else none := by
  unfold due? Instant.add?
  simp [asked, Span.ofMillis, DailySchedule.millis, Nat.div_eq_of_lt proper,
    Nat.mod_eq_of_lt proper]

theorem Punctual.seconds_bounds (h : a.Punctual b)
    (asked : a.decision.delay = DailySchedule.millis seconds)
    (proper : a.instant.nanos < Instant.nanosPerSecond) :
    a.instant.seconds + seconds ≤ b.instant.seconds
      ∧ b.instant.seconds ≤ a.instant.seconds + seconds + DailySchedule.driftTolerance := by
  obtain ⟨due, awaited, reached, soon⟩ := h
  rw [due?_eq asked proper] at awaited
  obtain ⟨-, same⟩ := Option.ite_none_right_eq_some.1 awaited
  obtain rfl := Option.some.inj same
  have le := Instant.seconds_le_of_le reached
  refine ⟨le, ?_⟩
  unfold Instant.secondsUntil at soon
  unfold Instant.nanosPerSecond DailySchedule.driftTolerance at *
  simp only [Instant.le_def, Instant.lt_def] at *
  rw [Int.tdiv_eq_ediv_of_nonneg (by omega)] at soon
  omega

theorem punctual_of_lt (asked : a.decision.delay = DailySchedule.millis seconds)
    (proper : a.instant.nanos < Instant.nanosPerSecond)
    (proper' : b.instant.nanos < Instant.nanosPerSecond)
    (representable : Instant.inRange (a.instant.seconds + seconds) = true)
    (reached : ⟨a.instant.seconds + seconds, a.instant.nanos⟩ ≤ b.instant)
    (soon : b.instant
      < ⟨a.instant.seconds + seconds + DailySchedule.driftTolerance, a.instant.nanos⟩) :
    a.Punctual b := by
  refine ⟨_, (due?_eq asked proper).trans (if_pos representable), reached, ?_⟩
  unfold Instant.secondsUntil
  unfold Instant.nanosPerSecond DailySchedule.driftTolerance at *
  simp only [Instant.le_def, Instant.lt_def] at *
  rw [Int.tdiv_eq_ediv_of_nonneg (by omega)]
  omega

end Evaluation

namespace DailySchedule

variable {s : DailySchedule} {now next : Instant} {later : List Instant} {caughtUp : Option Date}
  {d : Date}

/-- The instants of whole runs of the daily loop: readings of a clock without leap seconds, at which
    each evaluation is punctual after the one before. -/
def IsPunctual (s : DailySchedule) (instants : List Instant) : Prop :=
  (∀ now ∈ instants, now.nanos < Instant.nanosPerSecond)
    ∧ (s.evaluations none instants).IsChain Evaluation.Punctual

/-- The slot of a date is served: the task is run between 30 seconds before it and 30 seconds before
    the slot of the next date. -/
def Serves (s : DailySchedule) (run : List Evaluation) (d : Date) : Prop :=
  ∃ e ∈ run, s.slot d - driftTolerance ≤ e.instant.seconds
    ∧ e.instant.seconds < s.slot d.next - driftTolerance ∧ e.decision.runNow = true

instance (s : DailySchedule) (run : List Evaluation) (d : Date) : Decidable (s.Serves run d) :=
  inferInstanceAs (Decidable (∃ e ∈ run, _))

/-- In every punctual run, whenever the slot of the next date has come, the slot of a date is
    served, from the date after the first evaluation on. -/
def ServesEverySlot (s : DailySchedule) : Prop :=
  ∀ first later, s.IsPunctual (first :: later) → ∀ d : Date, first.date.day < d.day →
    (∃ now ∈ first :: later, s.slot d.next ≤ now.seconds) →
    s.Serves (s.evaluations none (first :: later)) d

/-! ## Slots that are far enough from midnight -/

/-- The slot and twice the drift tolerance fit into one date. -/
def Fits (s : DailySchedule) : Prop :=
  s.time.seconds + 2 * driftTolerance ≤ oneDay

/-- An instant of the wider surroundings of a slot. -/
def Near (s : DailySchedule) (d : Date) (now : Instant) : Prop :=
  now.date = d ∧ -driftTolerance < s.offset now ∧ s.offset now < 2 * driftTolerance

theorem near_of_seconds (fits : s.Fits) (begun : d.day * Span.secondsPerDay ≤ now.seconds)
    (after : s.slot d - driftTolerance < now.seconds)
    (before : now.seconds < s.slot d + 2 * driftTolerance) : s.Near d now := by
  have here : now.date = d := by
    rw [Instant.date_eq_iff]
    simp only [Fits, oneDay, slot, Span.secondsPerDay] at *
    omega
  refine ⟨here, ?_⟩
  unfold offset
  rw [here]
  omega

/-- A punctual evaluation is near the slot of the next date, or of the same one after an early
    evaluation. -/
theorem near_of_punctual {b : Evaluation} (daily : s.period = millis oneDay) (fits : s.Fits)
    (proper : now.nanos < Instant.nanosPerSecond)
    (punctual : Evaluation.Punctual ⟨now, (s.nextFire now caughtUp).1⟩ b) :
    s.Near now.date.next b.instant ∨ s.Early now ∧ s.Near now.date b.instant := by
  have lands : ∀ seconds : Nat, (s.nextFire now caughtUp).1.delay = millis seconds →
      now.seconds + seconds ≤ b.instant.seconds
        ∧ b.instant.seconds ≤ now.seconds + seconds + driftTolerance := by
    intro seconds asked
    exact punctual.seconds_bounds asked proper
  have begun := Instant.date_eq_iff.1 (rfl : now.date = _)
  rcases s.onTime_or_late_or_early now with onTime | late | early
  · have lands := lands oneDay (by rw [nextFire_of_onTime onTime, daily])
    refine .inl (near_of_seconds fits ?_ ?_ ?_) <;>
      simp only [OnTime, offset, slot, Date.next, driftTolerance, oneDay,
        Span.secondsPerDay] at * <;>
      omega
  · have lands := lands _ (by rw [nextFire_of_late late])
    refine .inl (near_of_seconds fits ?_ ?_ ?_) <;>
      simp only [Late, offset, slot, Date.next, driftTolerance, oneDay, Span.secondsPerDay] at * <;>
      omega
  · have lands := lands _ (by rw [nextFire_of_early early])
    refine .inr ⟨early, near_of_seconds fits ?_ ?_ ?_⟩ <;>
      simp only [Early, offset, slot, driftTolerance, oneDay, Span.secondsPerDay] at * <;>
      omega

/-- Near its slot, the task is run unless the date was served before. -/
theorem runNow_of_near (near : s.Near d now) (unserved : caughtUp ≠ some d) :
    (s.nextFire now caughtUp).1.runNow = true := by
  obtain ⟨rfl, after, -⟩ := near
  rcases s.onTime_or_late_or_early now with onTime | late | early
  · rw [nextFire_of_onTime onTime]
  · rw [nextFire_of_late late]
    exact bne_iff_ne.2 unserved
  · exact absurd early (Int.not_le.2 after)

/-- Every date from the one after the first evaluation to that of the last has an evaluation near
    its slot that runs the task. -/
theorem exists_run_near (daily : s.period = millis oneDay) (fits : s.Fits)
    (proper : ∀ i ∈ now :: later, i.nanos < Instant.nanosPerSecond)
    (punctual : (s.evaluations caughtUp (now :: later)).IsChain Evaluation.Punctual)
    (past : ∀ served ∈ caughtUp, served.day ≤ now.date.day) (after : now.date.day < d.day)
    (reached : ∃ i ∈ now :: later, d.day ≤ i.date.day) :
    ∃ e ∈ s.evaluations caughtUp (now :: later), s.Near d e.instant
      ∧ e.decision.runNow = true := by
  induction later generalizing now caughtUp with
  | nil =>
    obtain ⟨i, mem, le⟩ := reached
    obtain rfl := List.mem_singleton.1 mem
    omega
  | cons next later ih =>
    rw [evaluations_cons, evaluations_cons, List.isChain_cons_cons, ← evaluations_cons] at punctual
    have past' : ∀ served ∈ (s.nextFire now caughtUp).2, served.day ≤ now.date.day := by
      rcases s.served_nextFire now caughtUp with served | kept
      · rw [served]
        rintro _ ⟨⟩
        exact Int.le_refl _
      · rw [kept]
        exact past
    have reached' : ∃ i ∈ next :: later, d.day ≤ i.date.day := by
      obtain ⟨i, mem, le⟩ := reached
      rcases List.mem_cons.1 mem with rfl | mem
      · omega
      · exact ⟨i, mem, le⟩
    have go_on : next.date.day < d.day → now.date.day ≤ next.date.day →
        ∃ e ∈ s.evaluations caughtUp (now :: next :: later), s.Near d e.instant
          ∧ e.decision.runNow = true := by
      intro before le
      obtain ⟨e, mem, found⟩ := ih (fun i mem => proper i (List.mem_cons_of_mem _ mem)) punctual.2
        (fun served mem => Int.le_trans (past' served mem) le) before reached'
      exact ⟨e, List.mem_cons_of_mem _ mem, found⟩
    rcases near_of_punctual daily fits (proper now List.mem_cons_self) punctual.1
      with near | ⟨-, near⟩
    · by_cases same : now.date.next = d
      · subst same
        refine ⟨⟨next, _⟩, List.mem_cons_of_mem _ List.mem_cons_self, near, ?_⟩
        refine runNow_of_near near fun served => ?_
        have := past' _ served
        simp only [Date.next] at this
        omega
      · have step : next.date.day = now.date.day + 1 := congrArg Date.day near.1
        refine go_on (Int.lt_iff_le_and_ne.2 ⟨by omega, fun eq => same ?_⟩) (by omega)
        exact congrArg Date.mk (step.symm.trans eq)
    · have step : next.date.day = now.date.day := congrArg Date.day near.1
      exact go_on (by omega) (by omega)

/-- The slots of all dates are served where they are far enough from the end of the date. -/
theorem servesEverySlot_of_fits (daily : s.period = millis oneDay) (fits : s.Fits) :
    s.ServesEverySlot := by
  rintro first later ⟨proper, punctual⟩ d after ⟨now, mem, reached⟩
  have onward : d.day ≤ now.date.day := by
    have here := Instant.date_eq_iff.1 (rfl : now.date = _)
    unfold slot at reached
    simp only [Date.next] at reached
    unfold Span.secondsPerDay at *
    omega
  obtain ⟨e, mem, ⟨rfl, near, close⟩, runs⟩ := exists_run_near daily fits proper punctual
    (fun _ served => by cases served) after ⟨now, mem, onward⟩
  refine ⟨e, mem, ?_, ?_, runs⟩
  all_goals
    unfold Fits at fits
    unfold offset slot at *
    simp only [Date.next, driftTolerance, oneDay, Span.secondsPerDay] at *
    omega

/-! ## Slots near the end of the date -/

theorem evaluations_onTime_early {first second : Instant} (onTime : s.OnTime first)
    (early : s.Early second) (third : Instant) (caughtUp : Option Date) :
    s.evaluations caughtUp [first, second, third]
      = [⟨first, ⟨true, s.period⟩⟩, ⟨second, ⟨false, millis (s.offset second).natAbs⟩⟩,
        ⟨third, (s.nextFire third (some first.date)).1⟩] := by
  rw [evaluations_cons, nextFire_of_onTime onTime, evaluations_cons, nextFire_of_early early,
    evaluations_cons, evaluations_nil]

/-- A slot near the end of the date can be passed over: an evaluation on time is followed by one
    that is less than the drift tolerance later than asked for, but at the next date already. -/
theorem not_servesEverySlot_of_not_fits (daily : s.period = millis oneDay) (tight : ¬ s.Fits) :
    ¬ s.ServesEverySlot := by
  have time_lt := s.time.seconds_lt
  simp only [Fits, oneDay, driftTolerance, Span.secondsPerDay] at tight time_lt
  obtain ⟨drift, small, here, there⟩ : ∃ drift : Nat, drift < 30
      ∧ s.time.seconds + drift < 86400 ∧ 86370 ≤ s.time.seconds + drift :=
    ⟨min 29 (86399 - s.time.seconds), by omega, by omega, by omega⟩
  -- The second evaluation comes 29.9 seconds after it was asked for, and the third in time.
  obtain ⟨first, first_seconds, first_nanos⟩ :
      ∃ i : Instant, i.seconds = s.time.seconds + drift ∧ i.nanos = 500000000 :=
    ⟨⟨_, _⟩, rfl, rfl⟩
  obtain ⟨second, second_seconds, second_nanos⟩ :
      ∃ i : Instant, i.seconds = s.time.seconds + drift + 86430 ∧ i.nanos = 400000000 :=
    ⟨⟨_, _⟩, rfl, rfl⟩
  obtain ⟨third, third_seconds, third_nanos⟩ :
      ∃ i : Instant, i.seconds = s.time.seconds + 172800 ∧ i.nanos = 400000000 :=
    ⟨⟨_, _⟩, rfl, rfl⟩
  have first_date : first.date = ⟨0⟩ := by
    simp only [Instant.date_eq_iff, first_seconds, Span.secondsPerDay]
    omega
  have second_date : second.date = ⟨2⟩ := by
    simp only [Instant.date_eq_iff, second_seconds, Span.secondsPerDay]
    omega
  have onTime : s.OnTime first := by
    simp only [OnTime, offset, slot, first_date, first_seconds, driftTolerance, Span.secondsPerDay]
    omega
  have ahead : s.offset second = drift - 86370 := by
    simp only [offset, slot, second_date, second_seconds, Span.secondsPerDay]
    omega
  have early : s.Early second := by
    simp only [Early, ahead, driftTolerance]
    omega
  have proper : ∀ i ∈ [first, second, third], i.nanos < Instant.nanosPerSecond := by
    simp [first_nanos, second_nanos, third_nanos, Instant.nanosPerSecond]
  have run := evaluations_onTime_early onTime early third none
  have punctual : s.IsPunctual [first, second, third] := by
    refine ⟨proper, ?_⟩
    rw [run]
    refine .cons_cons (Evaluation.punctual_of_lt daily ?_ ?_ ?_ ?_ ?_)
      (.cons_cons (Evaluation.punctual_of_lt rfl ?_ ?_ ?_ ?_ ?_) (.singleton _))
    all_goals
      simp only [ahead, first_seconds, first_nanos, second_seconds, second_nanos, third_seconds,
        third_nanos, Instant.nanosPerSecond, Instant.inRange,
        Instant.earliest, Instant.latest, Instant.le_def, Instant.lt_def, driftTolerance, oneDay,
        Span.secondsPerDay, Bool.and_eq_true, decide_eq_true_iff]
      omega
  intro serves
  obtain ⟨e, mem, after, before, runs⟩ := serves first [second, third] punctual ⟨1⟩
    (by rw [first_date]; decide)
    ⟨third, by simp, by simp only [slot, Date.next, third_seconds, Span.secondsPerDay]; omega⟩
  rw [run] at mem
  simp only [List.mem_cons, List.not_mem_nil, or_false] at mem
  rcases mem with rfl | rfl | rfl
  · simp only [slot, first_seconds, driftTolerance, Span.secondsPerDay] at after
    omega
  · cases runs
  · simp only [slot, Date.next, third_seconds, driftTolerance, Span.secondsPerDay] at before
    omega

/-! ## Every time of day -/

/-- The daily task of a time of day serves the slots of all dates, whatever its punctual run,
    exactly if that time is at most 23:59:00. -/
theorem serves_every_slot_iff {hour minute second : Nat}
    (accepted : ofParts hour minute second = .ok s) :
    s.ServesEverySlot ↔ 3600 * hour + 60 * minute + second + 2 * driftTolerance ≤ oneDay := by
  obtain ⟨seconds, daily⟩ : s.time.seconds = 3600 * hour + 60 * minute + second
      ∧ s.period = millis oneDay := by
    unfold ofParts TimeOfDay.ofParts? at accepted
    split at accepted
    · rename_i time found
      obtain ⟨_, same⟩ := Option.dite_none_right_eq_some.1 found
      cases accepted
      exact ⟨by rw [← Option.some.inj same]; rfl, rfl⟩
    · cases accepted
  rw [← seconds]
  refine ⟨fun serves => ?_, servesEverySlot_of_fits daily⟩
  exact Decidable.byContradiction fun tight => not_servesEverySlot_of_not_fits daily tight serves

/-- The last time of day that is never passed over. -/
theorem serves_last_minute_of_day :
    let s : DailySchedule := ⟨⟨23, 59, 0, by decide, by decide, by decide⟩, millis oneDay⟩
    ofParts 23 59 0 = .ok s ∧ s.ServesEverySlot := by
  intro s
  have accepted : ofParts 23 59 0 = .ok s := rfl
  exact ⟨accepted, (serves_every_slot_iff accepted).2 (by decide)⟩

/-- A task for 23:59:50 whose action takes 20 seconds: the next evaluation is punctual, but at ten
    seconds past midnight, and the task is not run again until the slot after. -/
theorem passes_over_slot_before_midnight :
    let s : DailySchedule := ⟨⟨23, 59, 50, by decide, by decide, by decide⟩, millis oneDay⟩
    let instants : List Instant := [⟨86390, 0⟩, ⟨172810, 0⟩, ⟨259190, 0⟩]
    ofParts 23 59 50 = .ok s ∧ s.IsPunctual instants ∧ s.slot ⟨2⟩ ≤ 259190
      ∧ ¬ s.Serves (s.evaluations none instants) ⟨1⟩ ∧ ¬ s.ServesEverySlot := by
  intro s instants
  have punctual : s.IsPunctual instants := by
    refine ⟨by decide, ?_⟩
    refine .cons_cons ⟨⟨172790, 0⟩, by decide, by decide, by decide⟩ ?_
    exact .cons_cons ⟨⟨259190, 0⟩, by decide, by decide, by decide⟩ (.singleton _)
  have passed : ¬ s.Serves (s.evaluations none instants) ⟨1⟩ := by decide
  refine ⟨rfl, punctual, by decide, passed, fun serves => passed ?_⟩
  exact serves _ _ punctual ⟨1⟩ (by decide) ⟨⟨259190, 0⟩, by decide, by decide⟩

end DailySchedule

end Latchkey

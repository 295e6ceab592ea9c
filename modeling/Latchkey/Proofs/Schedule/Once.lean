import Latchkey.Proofs.Schedule.Evaluations

set_option autoImplicit false

/-! # No slot is served twice

The date last served is all that a daily task remembers. It keeps a late evaluation from running the
task again on a date that was served before, while an evaluation on time does not look at it. With a
period of 59 seconds the next evaluation is late, so that no date is served twice
(`DailySchedule.serves_each_date_once`). -/

namespace Latchkey

namespace Evaluation

/-- The evaluation runs the task on a date. -/
def RunsOn (e : Evaluation) (d : Date) : Prop :=
  e.decision.runNow = true ∧ e.date = d

/-- The evaluation runs the task late on a date. -/
def CatchesUp (s : DailySchedule) (e : Evaluation) (d : Date) : Prop :=
  s.Late e.instant ∧ e.RunsOn d

instance (e : Evaluation) (d : Date) : Decidable (e.RunsOn d) :=
  inferInstanceAs (Decidable (_ ∧ _))

instance (s : DailySchedule) (e : Evaluation) (d : Date) : Decidable (e.CatchesUp s d) :=
  inferInstanceAs (Decidable (_ ∧ _))

end Evaluation

namespace DailySchedule

variable {s : DailySchedule} {now later : Instant} {rest instants : List Instant}
  {caughtUp : Option Date} {d : Date} {e : Evaluation}

theorem day_le_of_le (le : now ≤ later) : now.date.day ≤ later.date.day := by
  have := Instant.seconds_le_of_le le
  simp only [Instant.date]
  exact Int.ediv_le_ediv (by decide) this

theorem not_runNow_of_late (late : s.Late now) :
    (s.nextFire now (some now.date)).1.runNow = false := by
  rw [nextFire_of_late late]
  exact bne_self_eq_false _

/-- Late evaluations do not run the task on a date that was served before. -/
theorem not_catchesUp_of_served (ordered : instants.Pairwise (· ≤ ·))
    (since : ∀ now ∈ instants, d.day ≤ now.date.day) :
    ∀ e ∈ s.evaluations (some d) instants, ¬ e.CatchesUp s d := by
  induction instants with
  | nil => simp
  | cons now rest ih =>
    rw [List.pairwise_cons] at ordered
    have later := ih ordered.2 fun i mem => since i (List.mem_cons_of_mem _ mem)
    rw [evaluations_cons, List.forall_mem_cons]
    refine ⟨?_, fun e mem => ?_⟩
    · rintro ⟨late, runs, same⟩
      rw [← show now.date = d from same, show _ = false from not_runNow_of_late late] at runs
      cases runs
    · rcases s.served_nextFire now (some d) with served | kept
      · rw [served] at mem
        by_cases same : now.date = d
        · exact later e (same ▸ mem)
        -- From a later date on, no evaluation is at the date that was served.
        · rintro ⟨-, -, there⟩
          have onward := day_le_of_le (ordered.1 _ (instant_mem_of_mem_evaluations mem))
          rw [show e.instant.date = d from there] at onward
          exact same (congrArg Date.mk (Int.le_antisymm onward (since now List.mem_cons_self)))
      · rw [kept] at mem
        exact later e mem

/-- At most one late evaluation runs the task on a date. -/
theorem countP_catchesUp_le_one (ordered : instants.Pairwise (· ≤ ·)) (d : Date) :
    (s.evaluations caughtUp instants).countP (fun e => e.CatchesUp s d) ≤ 1 := by
  induction instants generalizing caughtUp with
  | nil => simp
  | cons now rest ih =>
    rw [List.pairwise_cons] at ordered
    rw [evaluations_cons, List.countP_cons]
    split
    · rename_i caught
      obtain ⟨-, runs, rfl⟩ := of_decide_eq_true caught
      rw [served_of_runNow runs]
      refine Nat.add_le_add_right (Nat.le_of_eq (List.countP_eq_zero.2 ?_)) 1
      intro e mem caught
      exact not_catchesUp_of_served ordered.2 (fun i mem => day_le_of_le (ordered.1 i mem)) e mem
        (of_decide_eq_true caught)
    · exact ih ordered.2

/-- No late evaluation runs the task on a date that already had an evaluation on time. -/
theorem pairwise_onTime_catchesUp (ordered : instants.Pairwise (· ≤ ·)) :
    (s.evaluations caughtUp instants).Pairwise fun a b =>
      s.OnTime a.instant → ¬ b.CatchesUp s a.date := by
  induction instants generalizing caughtUp with
  | nil => exact .nil
  | cons now rest ih =>
    rw [List.pairwise_cons] at ordered
    rw [evaluations_cons, List.pairwise_cons]
    refine ⟨fun b mem onTime => ?_, ih ordered.2⟩
    rw [nextFire_of_onTime onTime] at mem
    exact not_catchesUp_of_served ordered.2 (fun i mem => day_le_of_le (ordered.1 i mem)) b mem

/-! ## Periods that outlast the drift tolerance -/

/-- After an evaluation on time and the wait of a long enough period, no evaluation of that date is
    on time. -/
theorem not_onTime_of_precedes {a b : Evaluation} (long : millis 59 ≤ s.period)
    (onTime : s.OnTime a.instant) (asked : a.decision.delay = s.period) (follows : a.Precedes b)
    (le : b.instant ≤ later) (same : later.date = a.date) : ¬ s.OnTime later := by
  have waited := follows.seconds_le
  have := Instant.seconds_le_of_le le
  rw [asked] at waited
  unfold millis at long
  unfold OnTime offset driftTolerance at *
  rw [show later.date = a.instant.date from same]
  omega

/-- Where the task is run again on a date on which it was run, it is run late. -/
theorem catchesUp_of_runsOn {a : Evaluation} (long : millis 59 ≤ s.period)
    (ordered : (now :: rest).Pairwise (· ≤ ·))
    (chain : (s.evaluations caughtUp (now :: rest)).IsChain Evaluation.Precedes)
    (runs : (s.nextFire now caughtUp).1.runNow = true)
    (mem : a ∈ s.evaluations (s.nextFire now caughtUp).2 rest) (again : a.RunsOn now.date) :
    a.CatchesUp s now.date := by
  refine ⟨?_, again⟩
  obtain ⟨firstOrdered, restOrdered⟩ := List.pairwise_cons.1 ordered
  have here := instant_mem_of_mem_evaluations mem
  have since := firstOrdered _ here
  obtain ⟨before, decided⟩ := exists_nextFire_of_mem mem
  have notEarly : ¬ s.Early a.instant := not_early_of_runNow (by rw [← decided]; exact again.1)
  rcases s.onTime_or_late_or_early a.instant with onTime | late | early
  · -- Then the first evaluation was on time too, and the second comes between the two.
    have onTime' : s.OnTime now := by
      have bound := Instant.seconds_le_of_le since
      have notEarly' := not_early_of_runNow runs
      have same : a.instant.date = now.date := again.2
      unfold OnTime Early offset at *
      rw [same] at onTime
      omega
    cases rest with
    | nil => simp at here
    | cons second rest =>
      rw [evaluations_cons, evaluations_cons, List.isChain_cons_cons] at chain
      have le : second ≤ a.instant := by
        rcases List.mem_cons.1 here with same | here
        · rw [same]
          exact Instant.le_refl _
        · exact (List.pairwise_cons.1 restOrdered).1 _ here
      refine absurd onTime (not_onTime_of_precedes long onTime' ?_ chain.1 le again.2)
      rw [nextFire_of_onTime onTime']
  · exact late
  · exact absurd early notEarly

theorem countP_runsOn_le_one (long : millis 59 ≤ s.period) (ordered : instants.Pairwise (· ≤ ·))
    (chain : (s.evaluations caughtUp instants).IsChain Evaluation.Precedes) (d : Date) :
    (s.evaluations caughtUp instants).countP (fun e => e.RunsOn d) ≤ 1 := by
  induction instants generalizing caughtUp with
  | nil => simp
  | cons now rest ih =>
    have restOrdered := List.pairwise_cons.1 ordered
    rw [evaluations_cons, List.countP_cons]
    split
    · rename_i here
      obtain ⟨runs, rfl⟩ := of_decide_eq_true here
      refine Nat.add_le_add_right (Nat.le_of_eq (List.countP_eq_zero.2 ?_)) 1
      intro e mem again
      have caught := catchesUp_of_runsOn long ordered chain runs mem (of_decide_eq_true again)
      rw [served_of_runNow runs] at mem
      exact not_catchesUp_of_served restOrdered.2 (fun i mem => day_le_of_le (restOrdered.1 i mem))
        e mem caught
    · rw [evaluations_cons] at chain
      exact ih restOrdered.2 chain.tail

/-! ## Whole runs -/

/-- Whatever the schedule and the instants at which it is evaluated one after another, at most one
    late evaluation runs the task on a date, and none on a date that already had an evaluation on
    time. With a period of at least 59 seconds, and if each evaluation comes no sooner than the one
    before has asked for, at most one evaluation runs the task on a date at all. -/
theorem serves_each_date_once (s : DailySchedule) (instants : List Instant)
    (ordered : instants.Pairwise (· ≤ ·)) :
    let run := s.evaluations none instants
    (∀ d, run.countP (fun e => e.CatchesUp s d) ≤ 1)
      ∧ (run.Pairwise fun a b => s.OnTime a.instant → ¬ b.CatchesUp s a.date)
      ∧ (millis 59 ≤ s.period → run.IsChain Evaluation.Precedes →
        ∀ d, run.countP (fun e => e.RunsOn d) ≤ 1) :=
  ⟨countP_catchesUp_le_one ordered, pairwise_onTime_catchesUp ordered,
    fun long chain => countP_runsOn_le_one long ordered chain⟩

/-- The earliest evaluation that is on time, and 59 seconds later the earliest that is late. -/
theorem served_once_across_drift :
    let s : DailySchedule := ⟨⟨2, 0, 0, by decide, by decide, by decide⟩, millis 59⟩
    let instants : List Instant := [⟨7171, 0⟩, ⟨7230, 0⟩, ⟨93600, 0⟩]
    let run := s.evaluations none instants
    instants.Pairwise (· ≤ ·) ∧ millis 59 ≤ s.period ∧ run.IsChain Evaluation.Precedes
      ∧ run.map (·.decision.runNow) = [true, false, true]
      ∧ (∀ d, run.countP (fun e => e.CatchesUp s d) ≤ 1)
      ∧ (run.Pairwise fun a b => s.OnTime a.instant → ¬ b.CatchesUp s a.date)
      ∧ ∀ d, run.countP (fun e => e.RunsOn d) ≤ 1 := by
  intro s instants run
  have ordered : instants.Pairwise (· ≤ ·) := by decide
  have chain : run.IsChain Evaluation.Precedes := by
    refine .cons_cons ⟨⟨7230, 0⟩, by decide, by decide⟩ ?_
    exact .cons_cons ⟨⟨93600, 0⟩, by decide, by decide⟩ (.singleton _)
  obtain ⟨late, none, once⟩ := serves_each_date_once s instants ordered
  exact ⟨ordered, by decide, chain, by decide, late, none, once (by decide) chain⟩

/-- With a period of 58 seconds both evaluations are on time. -/
example :
    let s : DailySchedule := ⟨⟨2, 0, 0, by decide, by decide, by decide⟩, millis 58⟩
    (s.evaluations none [⟨7171, 0⟩, ⟨7229, 0⟩]).countP (fun e => e.RunsOn ⟨0⟩) = 2 := by
  decide

end DailySchedule

end Latchkey

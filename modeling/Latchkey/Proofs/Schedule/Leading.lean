import Latchkey.Proofs.Schedule.Standing

set_option autoImplicit false

/-! # Leadership at the start

A start of all listed tasks asks the elector about each of them, and a task whose turn comes while
the process does not lead is left alone. Nobody asks again when the action of a task is handed over,
so that a task goes on after its process has lost the lead (`Rota.acts_after_lead_is_lost`). What
does hold of every run that begins is that the process was leading when the task was launched
(`Rota.led_at_launch`). -/

namespace Latchkey

/-- A task is started by itself. -/
def Deed.isStart {α : Type} : Deed α → Bool
  | .start _ => true
  | _ => false

namespace Rota

variable {α σ : Type} {perform : Performer α σ} {r : Rota α σ} {e : Happening α} {n : Nat}
  {t : Task α} {history : List (Happening α)}

/-- Tasks are started only by starts of all listed tasks. -/
def OnlyRounds (history : List (Happening α)) : Prop :=
  ∀ e ∈ history, e.deed.isStart = false

instance (history : List (Happening α)) : Decidable (OnlyRounds history) :=
  inferInstanceAs (Decidable (∀ e ∈ history, _))

/-- In the course of a history the process leads whenever an action is handed over. -/
def LeadsWhenActing (perform : Performer α σ) (r : Rota α σ) (history : List (Happening α)) :
    Prop :=
  ∀ before e later, history = before ++ e :: later →
    ∀ n, (r.after perform before).HandsOver perform e n → e.leads = true

/-! ## From the run back to the launch -/

theorem awake_of_handsOver (acts : r.HandsOver perform e n) :
    ∃ t, r.task? n = some t ∧ t.Awake := by
  rcases begins_happen perform r e n with same | ⟨t, found, awake, -⟩
  · exact absurd acts (by rw [HandsOver, same]; exact Nat.lt_irrefl _)
  · exact ⟨t, found, awake⟩

/-- Background work that is under way was launched in the course of the history. -/
theorem mem_launched_of_phase (unlaunched : ∀ t, r.task? n = some t → t.phase = .idle)
    (found : (r.after perform history).task? n = some t) (launched : t.phase ≠ .idle) :
    n ∈ r.launched perform history := by
  induction history generalizing r with
  | nil => exact absurd (unlaunched t found) launched
  | cons e later ih =>
    rw [Rota.launched, List.mem_append, Option.mem_toList]
    rcases concerns_happen perform r e n with launch | ⟨-, call⟩ | work
    · exact .inl launch
    · exact .inr (ih (fun t' found' => call.idle unlaunched found') found)
    · exact .inr (ih (fun t' found' => work.idle unlaunched found') found)

/-- A task that is not started by itself is launched in its turn, while the process leads. -/
theorem leads_of_launch (rounds : e.deed.isStart = false) (launch : r.launch? e = some n) :
    e.leads = true ∧ ∃ round, e.deed = .turn round := by
  obtain ⟨called, -⟩ := launch?_eq_some.1 launch
  obtain ⟨leads, deed⟩ := e
  cases deed with
  | start => cases rounds
  | turn round =>
    obtain ⟨led, -⟩ := Option.ite_none_right_eq_some.1 called
    exact ⟨led, round, rfl⟩
  | _ => cases called

/-- Whether the process leads makes no difference to what is handed over. -/
theorem handsOver_leads (deed : Deed α) (leads leads' : Bool) :
    r.HandsOver perform ⟨leads, deed⟩ n ↔ r.HandsOver perform ⟨leads', deed⟩ n := by
  cases deed with
  | turn round =>
    have quiet : ∀ leads, (r.happen perform ⟨leads, .turn round⟩).begins n = r.begins n := by
      intro leads
      simp only [happen]
      split <;> rfl
    rw [HandsOver, HandsOver, quiet, quiet]
  | _ => exact Iff.rfl

/-! ## Whole histories -/

/-- Where tasks are started only by starts of all listed tasks: whenever an action is handed over,
    its task was launched before, in its turn in such a start, at a moment when the process was
    leading. Whether the process leads when the action is handed over makes no difference. -/
theorem led_at_launch (perform : Performer α σ) (start : Instant) (world : σ)
    (before : List (Happening α)) (e : Happening α) (n : Nat) (rounds : OnlyRounds before)
    (acts : ((opening start world).after perform before).HandsOver perform e n) :
    (∃ earlier asked between, before = earlier ++ asked :: between ∧ asked.leads = true
      ∧ (∃ round, asked.deed = .turn round)
      ∧ ((opening start world).after perform earlier).launch? asked = some n)
    ∧ ∀ leads,
      ((opening start world).after perform before).HandsOver perform ⟨leads, e.deed⟩ n := by
  refine ⟨?_, fun leads => (handsOver_leads e.deed e.leads leads).1 acts⟩
  obtain ⟨t, found, awake⟩ := awake_of_handsOver acts
  obtain ⟨earlier, asked, between, rfl, launch⟩ :=
    mem_launched.1 (mem_launched_of_phase (by nofun) found awake.launched)
  obtain ⟨led, turn⟩ := leads_of_launch (rounds asked (by simp)) launch
  exact ⟨earlier, asked, between, rfl, led, turn, launch⟩

/-- The process leads when it starts a task for two o'clock and at the first run, but no longer on
    the next day: the task is run all the same. -/
theorem acts_after_lead_is_lost :
    let perform : Performer Unit Unit := fun _ _ _ world => (some ⟨0, true⟩, world)
    let daily : Duty :=
      .daily ⟨⟨2, 0, 0, by decide, by decide, by decide⟩, DailySchedule.millis 86400⟩ .wall
    let before : List (Happening Unit) :=
      [⟨true, .build "rotate" daily ()⟩, ⟨true, .register 0⟩, ⟨true, .runAll⟩, ⟨true, .turn 0⟩,
        ⟨true, .wake 0 ⟨1709258400, 0⟩⟩, ⟨true, .land ⟨0, 0, 0, true⟩⟩, ⟨true, .resume 0⟩,
        ⟨false, .pass 86400000⟩]
    let firing : Happening Unit := ⟨false, .wake 0 ⟨1709344800, 0⟩⟩
    let opening : Rota Unit Unit := .opening ⟨1709258400, 0⟩ ()
    OnlyRounds (before ++ [firing]) ∧ (opening.after perform before).HandsOver perform firing 0
      ∧ firing.leads = false
      ∧ ¬ ∀ history, OnlyRounds history → opening.LeadsWhenActing perform history := by
  intro perform daily before firing opening
  have rounds : OnlyRounds (before ++ [firing]) := by decide
  have acts : (opening.after perform before).HandsOver perform firing 0 := by decide +kernel
  refine ⟨rounds, acts, rfl, fun leads => ?_⟩
  cases leads (before ++ [firing]) rounds before firing [] rfl 0 acts

/-- At the second run the task was launched by the first start, when the process was leading. -/
theorem led_at_launch_before_second_run :
    let perform : Performer Unit Unit := fun _ _ _ world => (some ⟨0, true⟩, world)
    let daily : Duty :=
      .daily ⟨⟨2, 0, 0, by decide, by decide, by decide⟩, DailySchedule.millis 86400⟩ .wall
    let before : List (Happening Unit) :=
      [⟨true, .build "rotate" daily ()⟩, ⟨true, .register 0⟩, ⟨false, .runAll⟩, ⟨false, .turn 0⟩,
        ⟨true, .runAll⟩, ⟨true, .turn 1⟩, ⟨true, .wake 0 ⟨1709258400, 0⟩⟩,
        ⟨true, .land ⟨0, 0, 0, true⟩⟩, ⟨true, .resume 0⟩, ⟨false, .pass 86400000⟩]
    let firing : Happening Unit := ⟨false, .wake 0 ⟨1709344800, 0⟩⟩
    let opening : Rota Unit Unit := .opening ⟨1709258400, 0⟩ ()
    OnlyRounds before ∧ (opening.after perform before).HandsOver perform firing 0
      ∧ ∃ earlier asked between, before = earlier ++ asked :: between ∧ asked.leads = true
        ∧ (∃ round, asked.deed = .turn round)
        ∧ (opening.after perform earlier).launch? asked = some 0 := by
  intro perform daily before firing opening
  have rounds : OnlyRounds before := by decide
  have acts : (opening.after perform before).HandsOver perform firing 0 := by decide +kernel
  exact ⟨rounds, acts, (led_at_launch perform ⟨1709258400, 0⟩ () before firing 0 rounds acts).1⟩

end Rota

end Latchkey

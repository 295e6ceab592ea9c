import Latchkey.Proofs.Schedule.Evaluations
import Latchkey.Proofs.Schedule.Standing

set_option autoImplicit false

/-! # The wait for the next slot

Slots are the whole seconds at a schedule's time of day, whatever the date. An evaluation that is
not on time asks to wait for the next one, to the second, and an evaluation that comes then is on
time. So a daily task with a positive period never asks for a wait of zero, neither at an evaluation
nor anywhere in its background work (`DailySchedule.waits_for_next_slot`). -/

namespace Latchkey

namespace DailySchedule

variable {s : DailySchedule} {now : Instant} {caughtUp : Option Date} {d : Date} {second : Int}

/-! ## Slots -/

/-- The whole second is at the schedule's time of day. -/
def IsSlot (s : DailySchedule) (second : Int) : Prop :=
  (Instant.mk second 0).secondOfDay = s.time.seconds

/-- The second is the first slot after another second. -/
structure NextSlot (s : DailySchedule) (second next : Int) : Prop where
  later : second < next
  isSlot : s.IsSlot next
  first : ∀ other, second < other → other < next → ¬ s.IsSlot other

theorem isSlot_iff : s.IsSlot second ↔ ∃ d : Date, second = s.slot d := by
  have within := s.time.seconds_lt
  simp only [IsSlot, Instant.secondOfDay, slot, Span.secondsPerDay] at *
  constructor
  · intro same
    refine ⟨⟨second / 86400⟩, ?_⟩
    show second = second / 86400 * 86400 + s.time.seconds
    omega
  · rintro ⟨⟨day⟩, rfl⟩
    show ((day * 86400 + s.time.seconds) % 86400).toNat = s.time.seconds
    omega

theorem slot_next (s : DailySchedule) (d : Date) : s.slot d.next = s.slot d + oneDay := by
  simp only [slot, Date.next, oneDay, Span.secondsPerDay]
  omega

/-- Less than a day before a date's slot, that slot is the next one. -/
theorem nextSlot_slot (before : second < s.slot d) (soon : s.slot d ≤ second + oneDay) :
    s.NextSlot second (s.slot d) := by
  refine ⟨before, isSlot_iff.2 ⟨d, rfl⟩, ?_⟩
  intro other after earlier isSlot
  obtain ⟨d', rfl⟩ := isSlot_iff.1 isSlot
  simp only [slot, oneDay, Span.secondsPerDay] at *
  omega

/-- A date's slot is in that date. -/
theorem date_of_slot (here : now.seconds = s.slot d) : now.date = d := by
  have within := s.time.seconds_lt
  rw [Instant.date_eq_iff, here]
  simp only [slot, Span.secondsPerDay] at *
  omega

theorem onTime_of_slot (here : now.seconds = s.slot d) : s.OnTime now := by
  have punctual : s.offset now = 0 := by
    rw [offset, date_of_slot here, here, Int.sub_self]
  rw [OnTime, punctual]
  decide

/-! ## The wait that an evaluation asks for -/

theorem onTime_iff : s.OnTime now ↔ ¬ driftTolerance ≤ (s.offset now).natAbs := by
  unfold OnTime
  omega

/-- An evaluation is less than a day from the slot of its date. -/
theorem natAbs_offset_lt (s : DailySchedule) (now : Instant) : (s.offset now).natAbs < oneDay := by
  have within := s.time.seconds_lt
  have begun := Instant.date_eq_iff.1 (rfl : now.date = _)
  simp only [offset, slot, oneDay, Span.secondsPerDay] at *
  omega

/-- An evaluation that is not on time asks to wait for the slot of a date, less than a day away. -/
theorem exists_wait (away : ¬ s.OnTime now) (caughtUp : Option Date) :
    ∃ wait d, (s.nextFire now caughtUp).1.delay = millis wait ∧ 1 ≤ wait ∧ wait < oneDay
      ∧ now.seconds + wait = s.slot d := by
  have within := s.natAbs_offset_lt now
  rcases s.onTime_or_late_or_early now with onTime | late | early
  · exact absurd onTime away
  · refine ⟨oneDay - (s.offset now).natAbs, now.date.next, ?_, ?_⟩
    · rw [nextFire_of_late late]
    · rw [slot_next]
      simp only [Late, offset, driftTolerance] at *
      omega
  · refine ⟨(s.offset now).natAbs, now.date, ?_, ?_⟩
    · rw [nextFire_of_early early]
    · simp only [Early, offset, driftTolerance] at *
      omega

/-- No evaluation asks for a wait of zero. -/
theorem delay_pos (positive : 0 < s.period) (now : Instant) (caughtUp : Option Date) :
    0 < (s.nextFire now caughtUp).1.delay := by
  by_cases onTime : s.OnTime now
  · rwa [nextFire_of_onTime onTime]
  · obtain ⟨wait, -, asked, some, -⟩ := exists_wait onTime caughtUp
    rw [asked, millis]
    omega

end DailySchedule

/-! ## The waits of the background work -/

namespace Task

variable {α : Type} {t : Task α} {s : DailySchedule} {clock : Clock} {time : Nat}

/-- After a run that was handed over the work is to wait for more than nothing, and where it waits
    it does so beyond a time. -/
def WaitsBeyond (time : Nat) (t : Task α) : Prop :=
  t.phase ≠ .acting 0 ∧ ∀ wake, t.phase = .waiting wake → time < wake

theorem waitsBeyond_of_gone (gone : t.Gone) (time : Nat) : t.WaitsBeyond time := by
  constructor
  · intro acts
    rcases gone with ended | broken
    · cases ended.symm.trans acts
    · cases broken.symm.trans acts
  · intro wake waits
    rcases gone with ended | broken
    · cases ended.symm.trans waits
    · cases broken.symm.trans waits

theorem waitsBeyond_of_acting {delay : Nat} (acts : t.phase = .acting delay) (some : 0 < delay)
    (time : Nat) : t.WaitsBeyond time := by
  constructor
  · intro none
    cases acts.symm.trans none
    exact Nat.lt_irrefl 0 some
  · intro wake waits
    cases acts.symm.trans waits

theorem waitsBeyond_of_waiting {wake : Nat} (waits : t.phase = .waiting wake)
    (later : time < wake) : t.WaitsBeyond time := by
  constructor
  · intro acts
    cases waits.symm.trans acts
  · intro wake' waits'
    cases waits.symm.trans waits'
    exact later

theorem waitsBeyond_proceed (daily : t.duty = .daily s clock) (positive : 0 < s.period)
    (time : Nat) (now : Instant) : (t.proceed time now).1.WaitsBeyond time := by
  obtain ⟨name, duty, action, state, cancelled, phase, served, runs⟩ := t
  cases cancelled with
  | true => exact waitsBeyond_of_gone (.inl rfl) time
  | false =>
    obtain rfl : duty = _ := daily
    simp only [proceed, evaluateOn]
    cases clock.read? now with
    | none => exact waitsBeyond_of_gone (.inr rfl) time
    | some reading =>
      have some := DailySchedule.delay_pos positive reading served
      rw [Option.map_some]
      generalize s.nextFire reading served = fired at some
      obtain ⟨⟨runNow, delay⟩, caughtUp⟩ := fired
      cases runNow with
      | true => exact waitsBeyond_of_acting rfl some time
      | false => exact waitsBeyond_of_waiting rfl (Nat.lt_add_of_pos_right some)

/-- When a run has ended the work waits as it was to, or nothing changes. -/
theorem waitsBeyond_actionEnded (time : Nat) (going : t.phase ≠ .acting 0) :
    t.actionEnded time = (t, .quiet) ∨ (t.actionEnded time).1.WaitsBeyond time := by
  obtain ⟨name, duty, action, state, cancelled, phase, served, runs⟩ := t
  cases phase with
  | acting delay =>
    have some : 0 < delay := by
      refine Nat.pos_of_ne_zero ?_
      rintro rfl
      exact going rfl
    cases duty with
    | once => exact .inr (waitsBeyond_of_gone (.inl rfl) time)
    | daily schedule clock =>
      cases cancelled with
      | true => exact .inr (waitsBeyond_of_gone (.inl rfl) time)
      | false => exact .inr (waitsBeyond_of_waiting rfl (Nat.lt_add_of_pos_right some))
  | _ => exact .inl rfl

end Task

namespace Rota

variable {α σ : Type} {perform : Performer α σ} {r : Rota α σ} {e : Happening α} {n : Nat}
  {t t' : Task α} {s : DailySchedule} {clock : Clock}

/-- What a step of its own background work makes of a task, unless the work breaks down. -/
theorem worked_happen (works : e.deed.worker? = some n) (found : r.task? n = some t)
    (found' : (r.happen perform e).task? n = some t') :
    t' = t ∨ (∃ reading, t' = (t.proceed r.line.time reading).1)
      ∨ t' = (t.actionEnded r.line.time).1 ∨ t'.phase = .broken := by
  obtain ⟨leads, deed⟩ := e
  cases deed with
  | wake number reading =>
    obtain rfl := Option.some.inj works
    have wakes := wakes_happen perform r leads number reading
    generalize r.happen perform ⟨leads, .wake number reading⟩ = r' at wakes found'
    cases wakes with
    | keep => exact .inl (Option.some.inj (found'.symm.trans found))
    | @settle t₀ t₁ progress found₀ step rests =>
      obtain rfl := Option.some.inj (found₀.symm.trans found)
      have made := Option.some.inj (found'.symm.trans (task?_settle found₀ t₁ progress))
      exact .inr (.inl ⟨reading, by rw [(Task.awake_of_step? step).2, made]⟩)
    | @act t₀ t₁ flight world found₀ step =>
      obtain rfl := Option.some.inj (found₀.symm.trans found)
      have made := Option.some.inj (found'.symm.trans (task?_settle found₀ t₁ .acts))
      exact .inr (.inl ⟨reading, by rw [(Task.awake_of_step? step).2, made]⟩)
    | @panic t₀ t₁ world found₀ =>
      have made := Option.some.inj (found'.symm.trans (task?_settle found₀ t₁.breakDown .quiet))
      exact .inr (.inr (.inr (by rw [made]; rfl)))
  | resume number =>
    obtain rfl := Option.some.inj works
    rcases happen_resume perform r leads number with same | ⟨t₀, found₀, -, made⟩
    · rw [same] at found'
      exact .inl (Option.some.inj (found'.symm.trans found))
    · obtain rfl := Option.some.inj (found₀.symm.trans found)
      rw [made, task?_settle found] at found'
      exact .inr (.inr (.inl (Option.some.inj found').symm))
  | _ => cases works

/-- The background work of a daily task goes on to wait for more than nothing. -/
theorem waits_happen (positive : 0 < s.period) (daily : t.duty = .daily s clock)
    (going : t.phase ≠ .acting 0) (found : r.task? n = some t)
    (found' : (r.happen perform e).task? n = some t') :
    t'.phase ≠ .acting 0
      ∧ ∀ wake, t'.phase = .waiting wake → t.phase = .waiting wake ∨ r.line.time < wake := by
  have stays : t'.phase = t.phase → t'.phase ≠ .acting 0
      ∧ ∀ wake, t'.phase = .waiting wake → t.phase = .waiting wake ∨ r.line.time < wake := by
    intro same
    rw [same]
    exact ⟨going, fun wake waiting => .inl waiting⟩
  have beyond : t'.WaitsBeyond r.line.time → t'.phase ≠ .acting 0
      ∧ ∀ wake, t'.phase = .waiting wake → t.phase = .waiting wake ∨ r.line.time < wake := by
    rintro ⟨acts, waits⟩
    exact ⟨acts, fun wake waiting => .inr (waits wake waiting)⟩
  by_cases works : e.deed.worker? = some n
  · rcases worked_happen works found found' with rfl | ⟨reading, rfl⟩ | rfl | broken
    · exact stays rfl
    · exact beyond (Task.waitsBeyond_proceed daily positive _ reading)
    · rcases Task.waitsBeyond_actionEnded r.line.time going with same | waits
      · exact stays (by rw [same])
      · exact beyond waits
    · exact beyond (Task.waitsBeyond_of_gone (.inr broken) _)
  · by_cases launch : r.launch? e = some n
    · obtain ⟨_, -, -, -, launched⟩ := watch_of_launch perform launch
      obtain rfl := Option.some.inj (found'.symm.trans (congrArg Watch.task? launched))
      exact ⟨nofun, nofun⟩
    · exact stays ((calls_happen launch works).phase_eq found found')

/-- A task that is new has not begun to work. -/
theorem idle_happen (unbuilt : r.task? n = none) (found' : (r.happen perform e).task? n = some t') :
    t'.phase = .idle := by
  have idle : ∀ t, (r.watch n).task? = some t → t.phase = .idle := by
    intro t found
    cases unbuilt.symm.trans found
  rcases concerns_happen perform r e n with launch | ⟨-, call⟩ | work
  · obtain ⟨t, found, -⟩ := watch_of_launch perform launch
    cases unbuilt.symm.trans found
  · exact call.idle idle found'
  · exact work.idle idle found'

theorem not_acting_after (perform : Performer α σ) (start : Instant) (world : σ)
    (history : List (Happening α)) (positive : 0 < s.period)
    (found : ((opening start world).after perform history).task? n = some t)
    (daily : t.duty = .daily s clock) : t.phase ≠ .acting 0 := by
  induction history using List.reverseRecOn generalizing t with
  | nil => cases found
  | append_singleton history e ih =>
    rw [after_append] at found
    cases before : ((opening start world).after perform history).task? n with
    | none =>
      rw [idle_happen before found]
      nofun
    | some t₀ =>
      obtain ⟨t₁, found₁, keeps, -⟩ := goes_happen perform e before
      obtain rfl := Option.some.inj (found₁.symm.trans found)
      have daily₀ : t₀.duty = .daily s clock := keeps.duty.symm.trans daily
      exact (waits_happen positive daily₀ (ih before daily₀) before found).1

end Rota

/-- An evaluation 30 seconds or more away from the slot of its date asks for a wait of whole
    seconds, at least one and less than a day, that ends at the next slot, and an evaluation in that
    second is on time; any other evaluation runs the task and asks for one period. So with a positive
    period no evaluation asks for a wait of zero, and whatever happens, the background work of a task
    never goes on to wait for nothing. -/
theorem DailySchedule.waits_for_next_slot (s : DailySchedule) :
    (∀ now caughtUp,
      let (decision, served) := s.nextFire now caughtUp
      if driftTolerance ≤ (s.offset now).natAbs then
        ∃ wait : Nat, decision.delay = millis wait ∧ 1 ≤ wait ∧ wait ≤ 86399
          ∧ s.NextSlot now.seconds (now.seconds + wait)
          ∧ ∀ again : Instant, again.seconds = now.seconds + wait →
            (s.nextFire again served).1 = ⟨true, s.period⟩
      else decision = ⟨true, s.period⟩)
    ∧ (0 < s.period →
      (∀ now caughtUp, 0 < (s.nextFire now caughtUp).1.delay)
      ∧ ∀ {α σ : Type} (perform : Performer α σ) (start : Instant) (world : σ)
        (history : List (Happening α)) (e : Happening α) (n : Nat) (t t' : Task α) (clock : Clock),
        let r := (Rota.opening start world).after perform history
        r.task? n = some t → t.duty = .daily s clock → (r.happen perform e).task? n = some t' →
          t'.phase ≠ .acting 0
            ∧ ∀ wake, t'.phase = .waiting wake → t.phase = .waiting wake ∨ r.line.time < wake) := by
  refine ⟨?_, ?_⟩
  · intro now caughtUp
    dsimp only
    split
    · rename_i away
      obtain ⟨wait, d, asked, some, short, lands⟩ :=
        exists_wait (fun onTime => onTime_iff.1 onTime away) caughtUp
      refine ⟨wait, asked, some, Nat.le_of_lt_succ short, ?_, ?_⟩
      · rw [lands]
        exact nextSlot_slot (by omega) (by omega)
      · intro again here
        rw [nextFire_of_onTime (onTime_of_slot (here.trans lands))]
    · rename_i near
      rw [nextFire_of_onTime (onTime_iff.2 near)]
  · intro positive
    refine ⟨delay_pos positive, ?_⟩
    intro α σ perform start world history e n t t' clock r found daily found'
    have going := Rota.not_acting_after perform start world history positive found daily
    exact Rota.waits_happen positive daily going found found'

/-- Half a second past noon on the last day of 1969 a task for two o'clock waits fourteen hours. -/
theorem DailySchedule.waits_into_the_epoch :
    let s : DailySchedule := ⟨⟨2, 0, 0, by decide, by decide, by decide⟩, millis 86400⟩
    let now : Instant := ⟨-43200, 500000000⟩
    0 < s.period ∧ driftTolerance ≤ (s.offset now).natAbs
      ∧ s.nextFire now none = (⟨true, millis 50400⟩, some ⟨-1⟩)
      ∧ s.NextSlot (-43200) 7200
      ∧ (s.nextFire ⟨7200, 999999999⟩ (some ⟨-1⟩)).1 = ⟨true, millis 86400⟩ := by
  intro s now
  have fires : s.nextFire now none = (⟨true, millis 50400⟩, some ⟨-1⟩) := by decide
  have away : driftTolerance ≤ (s.offset now).natAbs := by decide
  obtain ⟨waits, goesOn⟩ := s.waits_for_next_slot
  have positive : 0 < s.period := by decide
  have waits := waits now none
  rw [fires] at waits
  obtain ⟨wait, asked, -, -, next, again⟩ := (if_pos away).mp waits
  obtain rfl : wait = 50400 := by
    simp only [millis] at asked
    omega
  exact ⟨positive, away, fires, next, again ⟨7200, 999999999⟩ rfl⟩

end Latchkey

import Latchkey.Proofs.Schedule.Watch

set_option autoImplicit false

/-! # Where a task stands

What holds of a task at any time (`Watch.Sound`) follows from the few ways in which anything changes
for it, and so does what is never lost or changed of it (`Task.Keeps`). With that its background
work is launched once at most (`Rota.nodup_launched`), and the runs of a timeline are histories
(`Rota.exists_history_runUntil`). -/

namespace Latchkey

/-- The moves of a task's state. -/
inductive TaskState.Moves : TaskState → TaskState → Prop
  | start : Moves .registered .running
  | cancel : Moves .registered .stopped
  | finish : Moves .running .stopped

theorem TaskState.stopped_of_any (state : TaskState) : .stopped = state ∨ state.Moves .stopped := by
  cases state with
  | registered => exact .inr .cancel
  | running => exact .inr .finish
  | stopped => exact .inl rfl

/-! ## What a task keeps -/

namespace Task

variable {α : Type} {t t' : Task α} {flights : List RunInFlight} {begins : Nat}

/-- What is never lost or changed of a task. -/
structure Keeps (t t' : Task α) : Prop where
  name : t'.name = t.name
  duty : t'.duty = t.duty
  cancelled : t.cancelled = true → t'.cancelled = true
  launched : t.phase ≠ .idle → t'.phase ≠ .idle

theorem Keeps.refl (t : Task α) : t.Keeps t := ⟨rfl, rfl, id, id⟩

theorem Keeps.trans {t'' : Task α} (h : t.Keeps t') (h' : t'.Keeps t'') : t.Keeps t'' :=
  ⟨h'.name.trans h.name, h'.duty.trans h.duty, h'.cancelled ∘ h.cancelled,
    h'.launched ∘ h.launched⟩

/-- What holds of a task at any time, given its runs in flight and how many have begun. -/
structure Sound (t : Task α) (flights : List RunInFlight) (begins : Nat) : Prop where
  registered : t.state = .registered → t.phase = .idle
  unbegun : t.phase = .idle ∨ t.phase = .ready → begins = 0
  landed : t.Acting ∨ flights = []
  single : flights.length ≤ 1
  once : t.duty = .once → begins ≤ 1 ∧ ∀ wake, t.phase ≠ .waiting wake
  stopped : t.state = .stopped → t.cancelled = true ∨ t.phase = .over

/-- A step of the background work is one of a task that was launched. -/
theorem Awake.launched (awake : t.Awake) : t.phase ≠ .idle := by
  rcases awake with ready | ⟨wake, waiting⟩
  · rw [ready]
    nofun
  · rw [waiting]
    nofun

theorem Acting.launched (acting : t.Acting) : t.phase ≠ .idle := by
  obtain ⟨delay, phase⟩ := acting
  rw [phase]
  nofun

/-- Background work that is there no more makes no further step. -/
theorem Awake.not_gone (awake : t.Awake) : ¬ t.Gone := by
  unfold Gone
  rcases awake with ready | ⟨wake, waiting⟩
  · rw [ready]
    nofun
  · rw [waiting]
    nofun

theorem Acting.not_gone (acting : t.Acting) : ¬ t.Gone := by
  obtain ⟨delay, phase⟩ := acting
  unfold Gone
  rw [phase]
  nofun

theorem Awake.unfinished (awake : t.Awake) : t.phase ≠ .over :=
  fun ended => awake.not_gone (.inl ended)

theorem Acting.unfinished (acting : t.Acting) : t.phase ≠ .over :=
  fun ended => acting.not_gone (.inl ended)

theorem Awake.not_acting (awake : t.Awake) : ¬ t.Acting := by
  rintro ⟨delay, acting⟩
  rcases awake with ready | ⟨wake, waiting⟩
  · cases ready.symm.trans acting
  · cases waiting.symm.trans acting

theorem Sound.landed_of_free (sound : t.Sound flights begins)
    (free : t.Awake ∨ t.Acting ∧ flights = []) : flights = [] := by
  rcases free with awake | ⟨-, none⟩
  · exact sound.landed.resolve_left awake.not_acting
  · exact none

theorem Sound.start (sound : t.Sound flights begins) (registered : t.state = .registered) :
    ({ t with state := .running, phase := .ready } : Task α).Sound flights begins := by
  have idle := sound.registered registered
  have none : flights = [] := sound.landed.resolve_left fun acting => acting.launched idle
  exact {
    registered := nofun
    unbegun := fun _ => sound.unbegun (.inl idle)
    landed := .inr none
    single := sound.single
    once := fun once => ⟨(sound.once once).1, nofun⟩
    stopped := nofun }

theorem launched_of_free (free : t.Awake ∨ t.Acting ∧ flights = []) : t.phase ≠ .idle := by
  rcases free with awake | ⟨acting, -⟩
  · exact awake.launched
  · exact acting.launched

theorem Sound.not_registered (sound : t.Sound flights begins)
    (free : t.Awake ∨ t.Acting ∧ flights = []) : t.state ≠ .registered := by
  intro registered
  exact launched_of_free free (sound.registered registered)

/-- A task that is stopped while its background work goes on was stopped by others. -/
theorem Sound.cancelled_of_free (sound : t.Sound flights begins)
    (free : t.Awake ∨ t.Acting ∧ flights = []) (stopped : t.state = .stopped) :
    t.cancelled = true := by
  refine (sound.stopped stopped).resolve_right ?_
  rcases free with awake | ⟨acting, -⟩
  · exact awake.unfinished
  · exact acting.unfinished

/-- The background work of a task that nobody has stopped makes a step while the task runs. -/
theorem Sound.running (sound : t.Sound flights begins) (awake : t.Awake)
    (going : t.cancelled = false) : t.state = .running := by
  cases state : t.state with
  | registered => exact absurd state (sound.not_registered (.inl awake))
  | running => rfl
  | stopped =>
    have cancelled := sound.cancelled_of_free (.inl awake) state
    cases going.symm.trans cancelled

end Task

namespace Watch

variable {α : Type} {w w' : Watch α} {t : Task α}

/-- What holds of a task at any time. -/
def Sound (w : Watch α) : Prop :=
  match w.task? with
  | none => w.flights = [] ∧ w.begins = 0
  | some t => t.Sound w.flights w.begins

theorem Sound.single (sound : w.Sound) : w.flights.length ≤ 1 := by
  obtain ⟨_ | t, flights, begins⟩ := w
  · obtain ⟨rfl, -⟩ := sound
    exact Nat.zero_le 1
  · exact Task.Sound.single sound

theorem Call.sound (call : w.Call w') (sound : w.Sound) : w'.Sound := by
  cases call with
  | keep => exact sound
  | build name duty action flights begins =>
    obtain ⟨rfl, rfl⟩ := sound
    exact {
      registered := fun _ => rfl
      unbegun := fun _ => rfl
      landed := .inr rfl
      single := Nat.zero_le 1
      once := fun _ => ⟨Nat.zero_le 1, nofun⟩
      stopped := nofun }
  | stop t flights begins =>
    exact {
      registered := nofun
      unbegun := sound.unbegun
      landed := sound.landed
      single := sound.single
      once := sound.once
      stopped := fun _ => .inl rfl }
  | evaluate t caughtUp flights begins =>
    exact {
      registered := sound.registered
      unbegun := sound.unbegun
      landed := sound.landed
      single := sound.single
      once := sound.once
      stopped := sound.stopped }
  | land task? flight flights begins =>
    cases task? with
    | none =>
      obtain ⟨rfl, rfl⟩ := sound
      exact ⟨rfl, rfl⟩
    | some t =>
      have landed : t.Acting ∨ flights.erase flight = [] := by
        rcases sound.landed with acting | none
        · exact .inl acting
        · exact .inr (congrArg (List.erase · flight) none)
      exact {
        registered := sound.registered
        unbegun := sound.unbegun
        landed := landed
        single := Nat.le_trans (List.erase_sublist.length_le) sound.single
        once := sound.once
        stopped := sound.stopped }

theorem Work.sound (work : w.Work w') (sound : w.Sound) : w'.Sound := by
  cases work with
  | keep => exact sound
  | finish t flights begins free due =>
    exact {
      registered := nofun
      unbegun := nofun
      landed := .inr (sound.landed_of_free free)
      single := sound.single
      once := fun once => ⟨(sound.once once).1, nofun⟩
      stopped := fun _ => .inr rfl }
  | breakDown t caughtUp runs flights begins awake going =>
    exact {
      registered := fun registered => absurd registered (sound.not_registered (.inl awake))
      unbegun := nofun
      landed := .inr (sound.landed_of_free (.inl awake))
      single := sound.single
      once := fun once => ⟨(sound.once once).1, nofun⟩
      stopped := fun stopped => .inl (sound.cancelled_of_free (.inl awake) stopped) }
  | wait t caughtUp wake flights begins free daily =>
    exact {
      registered := fun registered => absurd registered (sound.not_registered free)
      unbegun := nofun
      landed := .inr (sound.landed_of_free free)
      single := sound.single
      once := fun once => absurd once daily
      stopped := fun stopped => .inl (sound.cancelled_of_free free stopped) }
  | act t caughtUp delay flight flights begins awake going =>
    obtain rfl : flights = [] := sound.landed_of_free (.inl awake)
    have first : t.duty = .once → begins = 0 := by
      intro once
      -- The work of a task of one run never waits, so that it is at its first step.
      rcases awake with ready | ⟨wake, waiting⟩
      · exact sound.unbegun (.inr ready)
      · exact absurd waiting ((sound.once once).2 wake)
    exact {
      registered := fun registered => absurd registered (sound.not_registered (.inl awake))
      unbegun := nofun
      landed := .inl ⟨delay, rfl⟩
      single := Nat.le_refl 1
      once := fun once => ⟨Nat.le_of_eq (congrArg (· + 1) (first once)), nofun⟩
      stopped := fun stopped => .inl (sound.cancelled_of_free (.inl awake) stopped) }

/-- What is left of a task, and where its state goes. -/
def Goes (t t' : Task α) : Prop :=
  t.Keeps t' ∧ (t'.state = t.state ∨ t.state.Moves t'.state)

theorem Call.goes (call : w.Call w') (found : w.task? = some t) :
    ∃ t', w'.task? = some t' ∧ Goes t t' := by
  cases call with
  | keep => exact ⟨t, found, .refl t, .inl rfl⟩
  | build => cases found
  | stop =>
    obtain rfl := Option.some.inj found
    exact ⟨_, rfl, ⟨rfl, rfl, fun _ => rfl, id⟩, TaskState.stopped_of_any _⟩
  | evaluate _ caughtUp =>
    obtain rfl := Option.some.inj found
    exact ⟨_, rfl, ⟨rfl, rfl, id, id⟩, .inl rfl⟩
  | land => exact ⟨t, found, .refl t, .inl rfl⟩

theorem Work.goes (work : w.Work w') (found : w.task? = some t) :
    ∃ t', w'.task? = some t' ∧ Goes t t' := by
  cases work with
  | keep => exact ⟨t, found, .refl t, .inl rfl⟩
  | finish =>
    obtain rfl := Option.some.inj found
    exact ⟨_, rfl, ⟨rfl, rfl, id, fun _ => nofun⟩, TaskState.stopped_of_any _⟩
  | breakDown | wait | act =>
    obtain rfl := Option.some.inj found
    exact ⟨_, rfl, ⟨rfl, rfl, id, fun _ => nofun⟩, .inl rfl⟩

theorem Call.phase_eq (call : w.Call w') {t' : Task α} (found : w.task? = some t)
    (found' : w'.task? = some t') : t'.phase = t.phase := by
  cases call with
  | build => cases found
  | stop | evaluate =>
    obtain rfl := Option.some.inj found
    obtain rfl := Option.some.inj found'
    rfl
  | keep | land =>
    obtain rfl := Option.some.inj (found.symm.trans found')
    rfl

theorem Call.registered (call : w.Call w') {t' : Task α} (unbuilt : w.task? = none)
    (found' : w'.task? = some t') : t'.state = .registered := by
  cases call with
  | build =>
    obtain rfl := Option.some.inj found'
    rfl
  | stop | evaluate => cases unbuilt
  | keep | land => cases unbuilt.symm.trans found'

theorem Work.unbuilt (work : w.Work w') (unbuilt : w.task? = none) : w'.task? = none := by
  cases work with
  | keep => exact unbuilt
  | finish | breakDown | wait | act => cases unbuilt

/-- The first step of the background work is never come back to. -/
theorem Work.ready (work : w.Work w') {t' : Task α} (found' : w'.task? = some t')
    (ready : t'.phase = .ready) : ∃ t, w.task? = some t ∧ t.phase = .ready := by
  cases work with
  | keep => exact ⟨t', found', ready⟩
  | finish | breakDown | wait | act =>
    obtain rfl := Option.some.inj found'
    cases ready

/-- Others begin no run. -/
theorem Call.begins_eq (call : w.Call w') : w'.begins = w.begins := by
  cases call <;> rfl

/-- A run begins through the background work of a task that is not stopped. -/
theorem Work.begins_eq (work : w.Work w') :
    w'.begins = w.begins
      ∨ ∃ t, w.task? = some t ∧ t.Awake ∧ t.cancelled = false := by
  cases work with
  | act t caughtUp delay flight flights begins awake going => exact .inr ⟨t, rfl, awake, going⟩
  | _ => exact .inl rfl

/-- Others launch no background work. -/
theorem Call.idle (call : w.Call w') (idle : ∀ t, w.task? = some t → t.phase = .idle)
    {t' : Task α} (found' : w'.task? = some t') : t'.phase = .idle := by
  cases call with
  | build =>
    obtain rfl := Option.some.inj found'
    rfl
  | stop t | evaluate t =>
    obtain rfl := Option.some.inj found'
    exact idle t rfl
  | keep | land => exact idle t' found'

/-- Background work that is there no more makes no further step. -/
theorem Work.eq_of_gone (work : w.Work w') (found : w.task? = some t) (gone : t.Gone) :
    w' = w := by
  cases work with
  | keep => rfl
  | finish t _ _ free | wait t _ _ _ _ free =>
    obtain rfl := Option.some.inj found
    rcases free with awake | ⟨acting, -⟩
    · exact absurd gone awake.not_gone
    · exact absurd gone acting.not_gone
  | breakDown t _ _ _ _ awake | act t _ _ _ _ _ awake =>
    obtain rfl := Option.some.inj found
    exact absurd gone awake.not_gone

/-- Background work that was not launched makes no step. -/
theorem Work.idle (work : w.Work w') (idle : ∀ t, w.task? = some t → t.phase = .idle)
    {t' : Task α} (found' : w'.task? = some t') : t'.phase = .idle := by
  cases work with
  | keep => exact idle t' found'
  | finish t _ _ free | wait t _ _ _ _ free =>
    exact absurd (idle t rfl) (Task.launched_of_free free)
  | breakDown t _ _ _ _ awake | act t _ _ _ _ _ awake =>
    exact absurd (idle t rfl) awake.launched

end Watch

namespace Rota

variable {α σ : Type} {perform : Performer α σ} {r : Rota α σ} {e : Happening α} {n : Nat}
  {t : Task α} {later history : List (Happening α)}

/-- Whatever happens concerns a task in one of three ways. -/
theorem concerns_happen (perform : Performer α σ) (r : Rota α σ) (e : Happening α) (n : Nat) :
    r.launch? e = some n
      ∨ (r.launch? e ≠ some n ∧ (r.watch n).Call ((r.happen perform e).watch n))
      ∨ (r.watch n).Work ((r.happen perform e).watch n) := by
  by_cases works : e.deed.worker? = some n
  · exact .inr (.inr (works_happen works))
  · by_cases launch : r.launch? e = some n
    · exact .inl launch
    · exact .inr (.inl ⟨launch, calls_happen launch works⟩)

theorem sound_opening (start : Instant) (world : σ) (n : Nat) :
    ((opening start world : Rota α σ).watch n).Sound := ⟨rfl, rfl⟩

theorem sound_happen (perform : Performer α σ) (e : Happening α) (sound : (r.watch n).Sound) :
    ((r.happen perform e).watch n).Sound := by
  rcases concerns_happen perform r e n with launch | ⟨-, call⟩ | work
  · obtain ⟨t, found, registered, -, launched⟩ := watch_of_launch perform launch
    rw [watch_of_task? found] at sound
    rw [launched]
    exact Task.Sound.start sound registered
  · exact call.sound sound
  · exact work.sound sound

theorem sound_after (perform : Performer α σ) (history : List (Happening α))
    (sound : (r.watch n).Sound) : ((r.after perform history).watch n).Sound := by
  induction history generalizing r with
  | nil => exact sound
  | cons e later ih => exact ih (sound_happen perform e sound)

theorem goes_happen (perform : Performer α σ) (e : Happening α) (found : r.task? n = some t) :
    ∃ t', (r.happen perform e).task? n = some t' ∧ Watch.Goes t t' := by
  rcases concerns_happen perform r e n with launch | ⟨-, call⟩ | work
  · obtain ⟨t₀, found₀, registered, going, launched⟩ := watch_of_launch perform launch
    obtain rfl := Option.some.inj (found₀.symm.trans found)
    refine ⟨_, congrArg Watch.task? launched, ⟨rfl, rfl, id, fun _ => nofun⟩, .inr ?_⟩
    rw [registered]
    exact .start
  · exact call.goes found
  · exact work.goes found

theorem keeps_after (perform : Performer α σ) (later : List (Happening α))
    (found : r.task? n = some t) :
    ∃ t', (r.after perform later).task? n = some t' ∧ t.Keeps t' := by
  induction later generalizing r t with
  | nil => exact ⟨t, found, .refl t⟩
  | cons e later ih =>
    obtain ⟨t', found', keeps, -⟩ := goes_happen perform e found
    obtain ⟨t'', found'', keeps'⟩ := ih found'
    exact ⟨t'', found'', keeps.trans keeps'⟩

theorem ready_happen {t' : Task α} (found : r.task? n = some t)
    (found' : (r.happen perform e).task? n = some t') (ready : t'.phase = .ready) :
    t.phase = .ready ∨ r.launch? e = some n := by
  rcases concerns_happen perform r e n with launch | ⟨-, call⟩ | work
  · exact .inr launch
  · exact .inl ((call.phase_eq found found').symm.trans ready)
  · obtain ⟨t₀, found₀, ready₀⟩ := work.ready found' ready
    obtain rfl := Option.some.inj (found₀.symm.trans found)
    exact .inl ready₀

theorem registered_happen {t' : Task α} (unbuilt : r.task? n = none)
    (found' : (r.happen perform e).task? n = some t') : t'.state = .registered := by
  rcases concerns_happen perform r e n with launch | ⟨-, call⟩ | work
  · obtain ⟨-, t, found, -⟩ := launch?_eq_some.1 launch
    cases unbuilt.symm.trans found
  · exact call.registered unbuilt found'
  · cases found'.symm.trans (work.unbuilt unbuilt)

theorem begins_happen (perform : Performer α σ) (r : Rota α σ) (e : Happening α) (n : Nat) :
    (r.happen perform e).begins n = r.begins n
      ∨ ∃ t, r.task? n = some t ∧ t.Awake ∧ t.cancelled = false := by
  rcases concerns_happen perform r e n with launch | ⟨-, call⟩ | work
  · obtain ⟨t, -, -, -, launched⟩ := watch_of_launch perform launch
    exact .inl (congrArg Watch.begins launched)
  · exact .inl call.begins_eq
  · exact work.begins_eq

/-! ## Runs of a timeline -/

theorem after_endRun (perform : Performer α σ) {flight : RunInFlight}
    (sound : (r.watch flight.number).Sound) (mem : flight ∈ r.line.inFlight) :
    r.after perform [⟨false, .land flight⟩, ⟨false, .resume flight.number⟩]
      = { r with line := r.line.endRun flight } := by
  have here : flight ∈ r.flights flight.number := List.mem_filter.2 ⟨mem, by simp⟩
  have alone : (r.flights flight.number).erase flight = [] := by
    have single : (r.flights flight.number).length ≤ 1 := sound.single
    exact List.eq_nil_of_length_eq_zero (by rw [List.length_erase_of_mem here]; omega)
  have clear : ∀ other ∈ r.line.inFlight.erase flight, other.number ≠ flight.number := by
    rw [flights, List.erase_filter] at alone
    simpa using List.filter_eq_nil_iff.1 alone
  simp only [after_cons, after_nil, happen, if_pos mem, Timeline.endRun_eq]
  exact if_pos clear

/-- Whatever a timeline does next may happen on a rota. -/
theorem exists_history_step? (sound : ∀ n, (r.watch n).Sound) {line : Timeline α σ}
    (step : r.line.step? perform = some line) :
    ∃ history, r.after perform history = { r with line } := by
  rw [Timeline.step?_eq] at step
  split at step
  · rename_i flight found
    obtain rfl := Option.some.inj step
    exact ⟨_, after_endRun perform (sound flight.number) (List.mem_of_find?_eq_some found)⟩
  · obtain ⟨number, -, woken⟩ := List.exists_of_findSome?_eq_some step
    refine ⟨[⟨false, .wake number r.line.now⟩], ?_⟩
    simp only [after_cons, after_nil, happen, woken, Option.getD_some]

/-- A run of a timeline is a history. -/
theorem exists_history_runUntil (sound : ∀ n, (r.watch n).Sound) (target fuel : Nat) :
    ∃ history, r.after perform history
      = { r with line := r.line.runUntil perform target fuel } := by
  induction fuel generalizing r with
  | zero => exact ⟨[], rfl⟩
  | succ fuel ih =>
    have goes_on : ∀ history line, r.after perform history = { r with line } →
        ∃ history, r.after perform history
          = { r with line := line.runUntil perform target fuel } := by
      intro history line made
      obtain ⟨later, made'⟩ := ih fun n => made ▸ sound_after perform history (sound n)
      exact ⟨history ++ later, by rw [after_append, made, made']⟩
    have passes : ∀ time, r.after perform [⟨false, .pass (time - r.line.time)⟩]
        = { r with line := { r.line with time := max r.line.time time } } := by
      intro time
      have later : r.line.time + (time - r.line.time) = max r.line.time time := by omega
      simp only [after_cons, after_nil, happen, later]
    unfold Timeline.runUntil
    cases step : r.line.step? perform with
    | some line =>
      obtain ⟨history, made⟩ := exists_history_step? sound step
      exact goes_on history line made
    | none =>
      cases next : r.line.nextTime? with
      | none => exact ⟨_, passes target⟩
      | some time =>
        by_cases soon : time ≤ target
        · simp only [if_pos soon]
          exact goes_on _ _ (passes time)
        · simp only [if_neg soon]
          exact ⟨_, passes target⟩

/-! ## Launches -/

/-- A task whose background work was launched is not launched any more. -/
theorem not_mem_launched (sound : (r.watch n).Sound) (found : r.task? n = some t)
    (launched : t.phase ≠ .idle) : n ∉ r.launched perform later := by
  intro again
  obtain ⟨before, e, rest, -, launch⟩ := mem_launched.1 again
  obtain ⟨-, t', found', registered, -⟩ := launch?_eq_some.1 launch
  obtain ⟨t'', found'', keeps⟩ := keeps_after perform before found
  obtain rfl := Option.some.inj (found'.symm.trans found'')
  have sound' := sound_after perform before sound
  rw [watch_of_task? found'] at sound'
  exact keeps.launched launched (Task.Sound.registered sound' registered)

theorem nodup_launched (sound : ∀ n, (r.watch n).Sound) : (r.launched perform later).Nodup := by
  induction later generalizing r with
  | nil => exact .nil
  | cons e later ih =>
    have rest := ih fun n => sound_happen perform e (sound n)
    cases launch : r.launch? e with
    | none => simpa [launched, launch] using rest
    | some n =>
      obtain ⟨t, found, -, -, begun⟩ := watch_of_launch perform launch
      have once : n ∉ (r.happen perform e).launched perform later :=
        not_mem_launched (sound_happen perform e (sound n)) (congrArg Watch.task? begun)
          (by simp)
      simpa [launched, launch] using ⟨once, rest⟩

end Rota

end Latchkey

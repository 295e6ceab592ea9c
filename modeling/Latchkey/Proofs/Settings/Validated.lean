import Latchkey.Proofs.Key.Refilling
import Latchkey.Proofs.Schedule.KeyTasks
import Latchkey.Proofs.Time.Instant
import Latchkey.Token.Codec

set_option autoImplicit false

/-! # What validation is good for

Settings that pass validation are used by the codec, the daily schedule, the key tasks and key
maintenance. Each section's rules are taken apart once, and from them it follows where the settings
work and where they do not (`Settings.valid_works_unless`): validation bounds every number that
these parts depend on, but for the offset of the test clock and for a pool that is to be kept
empty. -/

namespace Latchkey

open SettingsFault

/-! ## The rules -/

theorem TokenSettings.validate_eq_ok_iff {s : TokenSettings} :
    s.validate = .ok () ↔ s.issuer.isEmpty = false ∧ s.audience.isEmpty = false
      ∧ 0 < s.refreshTokenTtl ∧ s.refreshTokenTtl ≤ maxLifetime := by
  unfold validate
  split
  · rename_i nobody
    simp only [reduceCtorEq, false_iff]
    rintro ⟨issued, meant, -⟩
    simp [issued, meant] at nobody
  · rename_i somebody
    obtain ⟨issued, meant⟩ : s.issuer.isEmpty = false ∧ s.audience.isEmpty = false := by
      simpa using somebody
    simp [issued, meant, not_or]

theorem RotationSettings.validate_eq_ok_iff {s : RotationSettings} :
    s.validate = .ok () ↔ 0 < s.selectionWindow ∧ s.minUsableKeys ≤ s.selectionWindow
      ∧ (1 ≤ s.maxKeyAgeDays ∧ s.maxKeyAgeDays ≤ maxAgeDays)
      ∧ 1 ≤ s.maxEncryptionKeyAgeDays ∧ s.maxEncryptionKeyAgeDays ≤ maxAgeDays := by
  unfold validate ageInRange
  by_cases window : s.selectionWindow = 0
  · simp [window]
  by_cases least : s.selectionWindow < s.minUsableKeys
  · simp [window, least, Nat.not_le.2 least]
  by_cases age : 1 ≤ s.maxKeyAgeDays ∧ s.maxKeyAgeDays ≤ maxAgeDays <;>
    by_cases encryptionAge :
      1 ≤ s.maxEncryptionKeyAgeDays ∧ s.maxEncryptionKeyAgeDays ≤ maxAgeDays <;>
    simp [window, Nat.pos_of_ne_zero window, least, Nat.not_lt.1 least, age, encryptionAge]

theorem SchedulerSettings.validate_eq_ok_iff {s : SchedulerSettings} :
    s.validate = .ok () ↔ (s.rotationHour < 24 ∧ s.rotationMinute < 60 ∧ s.rotationSecond < 60)
      ∧ 0 < s.periodSeconds := by
  unfold validate
  grind

theorem Settings.validate_eq_ok_iff {s : Settings} :
    s.validate = .ok () ↔ s.token.validate = .ok () ∧ s.keyRotation.validate = .ok ()
      ∧ s.scheduler.validate = .ok () := by
  unfold validate
  cases s.token.validate with
  | error e => simp [bind, Except.bind]
  | ok _ =>
    cases s.keyRotation.validate with
    | error e => simp [bind, Except.bind]
    | ok _ => simp [bind, Except.bind]

/-! ## Codec and schedule -/

theorem TokenCodec.exists_ofSettings {s : TokenSettings} (valid : s.validate = .ok ()) :
    ∃ codec, ofSettings s = .ok codec ∧ codec.lifetime = s.refreshTokenTtl := by
  obtain ⟨-, -, inRange⟩ := TokenSettings.validate_eq_ok_iff.1 valid
  exact ⟨_, dif_pos inRange, rfl⟩

theorem DailySchedule.exists_ofSettings {s : SchedulerSettings} (valid : s.validate = .ok ()) :
    ∃ schedule, ofSettings s = .ok schedule := by
  obtain ⟨inRange, -⟩ := SchedulerSettings.validate_eq_ok_iff.1 valid
  simp only [ofSettings, ofParts, TimeOfDay.ofParts?, dif_pos inRange]
  exact ⟨_, rfl⟩

/-! ## The key tasks -/

/-- The offset of the test clock is a span, or no key task reads that clock. -/
def SchedulerSettings.HasClock (s : SchedulerSettings) : Prop :=
  s.isTestTask (KeyChore.taskName .rotate) = true →
    -Span.maxSeconds ≤ s.testClockOffsetSeconds ∧ s.testClockOffsetSeconds ≤ Span.maxSeconds

theorem SchedulerSettings.forTask?_eq_none_iff {s : SchedulerSettings} :
    Clock.forTask? s (KeyChore.taskName .rotate) = none ↔ ¬ s.HasClock := by
  unfold Clock.forTask? HasClock Clock.ofSeconds? Span.ofSeconds?
  cases s.isTestTask (KeyChore.taskName .rotate) with
  | false => simp
  | true => simp

namespace Scheduler

variable {α : Type} {s : Scheduler α}

/-- On an empty registry both key tasks are listed if the clock can be had; if not, the program
    breaks down on the way. -/
theorem addKeyTasks_of_empty (action : KeyChore → α) {settings : SchedulerSettings}
    (valid : settings.validate = .ok ()) (empty : s.registry = .empty) :
    (settings.HasClock → (s.addKeyTasks action settings).1 = .ok ()
        ∧ (s.addKeyTasks action settings).2.registry.names
          = [KeyChore.taskName .seed, KeyChore.taskName .rotate])
      ∧ (¬ settings.HasClock → (s.addKeyTasks action settings).1 = .error .noClock) := by
  obtain ⟨schedule, scheduled⟩ := DailySchedule.exists_ofSettings valid
  have free : s.registry.contains (KeyChore.taskName .seed) = false := by rw [empty]; rfl
  unfold addKeyTasks
  rw [add_of_unused free, scheduled]
  dsimp only
  -- The first task is listed in any case; the clock decides whether the second one is reached.
  cases found : Clock.forTask? settings (KeyChore.taskName .rotate) with
  | none =>
    exact ⟨fun has => absurd has (SchedulerSettings.forTask?_eq_none_iff.1 found), fun _ => rfl⟩
  | some clock =>
    refine ⟨fun _ => ?_, fun lacks => ?_⟩
    · dsimp only
      rw [add_of_unused (by rw [empty]; rfl), empty]
      exact ⟨rfl, rfl⟩
    · rw [SchedulerSettings.forTask?_eq_none_iff.2 lacks] at found
      simp at found

end Scheduler

/-! ## Retirement -/

/-- The end of the year 9999. -/
def Instant.endOf9999 : Int :=
  (Date.ofCivil 10000 1 1).day * Span.secondsPerDay

/-- An allowed age can be subtracted from every instant of these years. -/
theorem Maintenance.cutoff_eq_ok {days : Int} (least : 1 ≤ days) (most : days ≤ maxAgeDays)
    {now : Instant} (since : 0 ≤ now.seconds) (before : now.seconds < Instant.endOf9999)
    (proper : now.nanos < Instant.nanosPerSecond) :
    cutoff now days = .ok ⟨now.seconds - Span.secondsPerDay * days, now.nanos⟩ := by
  have span : Span.ofDays? days = some ⟨Span.secondsPerDay * days, 0⟩ := by
    refine if_pos ?_
    simp only [Span.maxSeconds, Span.secondsPerDay, maxAgeDays] at most ⊢
    omega
  have within : Instant.inRange (now.seconds - Span.secondsPerDay * days) = true := by
    have last : Instant.endOf9999 = 253402300800 := by decide
    simp only [Span.secondsPerDay, maxAgeDays, last] at most before ⊢
    simp only [Instant.inRange, Bool.and_eq_true, decide_eq_true_iff]
    simp only [Instant.earliest, Instant.latest]
    omega
  rw [cutoff, span, Option.bind_some, Instant.sub?_seconds proper, if_pos within]

/-! ## Refills -/

namespace World

variable {w after : World} {plan : Nat → Option Error} {draws : Nat → Draw} {n m : Nat}

/-- A signing key is usable. -/
def CanSign (w : World) : Prop :=
  ∃ key ∈ w.signing.keys, key.isUsable = true

theorem canSign_iff : w.CanSign ↔ 0 < w.signing.shelf.usable.card := by
  rw [Finset.card_pos]
  constructor
  · rintro ⟨key, inside, fit⟩
    exact ⟨key.id, Pool.mem_usable.2 ⟨key, inside, fit, rfl⟩⟩
  · rintro ⟨id, mem⟩
    obtain ⟨key, inside, fit, -⟩ := Pool.mem_usable.1 mem
    exact ⟨key, inside, fit⟩

end World

/-- A refill that succeeds makes a world that can sign, unless it is content with an empty pool and
    finds one. -/
theorem Maintenance.canSign_ensureSigning {w after : World} {plan : Nat → Option Error}
    {draws : Nat → Draw} {n m count : Nat} {s : RotationSettings}
    (ensured : (ensureSigning s).run.run (World.planned plan draws) (n, w)
      = (.ok count, m, after)) :
    after.CanSign ↔ 0 < s.minUsableKeys ∨ w.CanSign := by
  obtain ⟨m', new, later, result, ran, filling⟩ := run_refill s .signing plan draws n w
  rw [refill, ensured] at ran
  obtain ⟨succeeded, same⟩ := Prod.mk.inj ran
  obtain ⟨-, rfl⟩ := Prod.mk.inj same
  cases filling.ends with
  | complete all =>
    have grown : later.shelf.usable.card = w.signing.shelf.usable.card + new.length :=
      filling.card_usable
    have missing : new.length = s.minUsableKeys - w.signing.shelf.usable.card := all
    rw [World.canSign_iff, World.canSign_iff]
    show 0 < later.shelf.usable.card ↔ _
    omega
  | broken => cases succeeded
  | blocked => cases succeeded

/-- A key is selected if and only if one can sign. -/
theorem KeyWindow.exists_select_iff {window : KeyWindow} (positive : 0 < window.size) (draw : Nat)
    (drawn : Draw) (w : World) :
    (∃ key, ((window.select draw).run.run (World.answer drawn) w).1 = .ok key) ↔ w.CanSign := by
  rw [run_select]
  cases picked : pick? (w.signing.recentUsable window.size) draw with
  | none =>
    rw [pick?_eq_none_iff, Pool.recentUsable_eq_nil_iff positive] at picked
    simpa [World.CanSign] using picked
  | some key =>
    have mem := mem_of_pick? picked
    obtain ⟨inside, usable⟩ := Pool.mem_keys_of_mem_recentUsable mem
    simp only [Option.elim_some, Except.ok.injEq, exists_eq', true_iff]
    exact ⟨key, inside, usable⟩

/-! ## Valid settings -/

namespace Settings

/-- Settings that pass validation work, but for two things that validation does not look at:
    - There are a codec and a daily schedule of them.
    - On an empty registry both key tasks are listed if and only if the task that rotates keys reads
      the wall clock, or the offset of the test clock is a span. If it is none, the program breaks
      down.
    - From 1970 to the year 9999 both retirement cutoffs are in range.
    - After a refill that succeeds, on whatever pool, a key can be selected if and only if at least
      one was to be kept, or one could be selected before. -/
theorem valid_works_unless (s : Settings) (valid : s.validate = .ok ()) :
    (∃ codec, TokenCodec.ofSettings s.token = .ok codec)
      ∧ (∃ schedule, DailySchedule.ofSettings s.scheduler = .ok schedule)
      ∧ (∀ {α : Type} (action : KeyChore → α) (before : Scheduler α), before.registry = .empty →
        let (result, after) := before.addKeyTasks action s.scheduler
        (s.scheduler.HasClock → result = .ok ()
            ∧ after.registry.names = [KeyChore.taskName .seed, KeyChore.taskName .rotate])
          ∧ (¬ s.scheduler.HasClock → result = .error .noClock))
      ∧ (∀ now : Instant, 0 ≤ now.seconds → now.seconds < Instant.endOf9999 →
        now.nanos < Instant.nanosPerSecond →
        (∃ time, Maintenance.cutoff now s.keyRotation.maxKeyAgeDays = .ok time)
          ∧ ∃ time, Maintenance.cutoff now s.keyRotation.maxEncryptionKeyAgeDays = .ok time)
      ∧ ∀ (plan : Nat → Option Error) (draws : Nat → Draw) (n m count : Nat) (w after : World),
        (Maintenance.ensureSigning s.keyRotation).run.run (World.planned plan draws) (n, w)
          = (.ok count, m, after) →
        ∀ draw drawn, (∃ key, (((KeyWindow.ofSettings s.keyRotation).select draw).run.run
            (World.answer drawn) after).1 = .ok key)
          ↔ 0 < s.keyRotation.minUsableKeys ∨ w.CanSign := by
  obtain ⟨token, rotation, scheduler⟩ := validate_eq_ok_iff.1 valid
  obtain ⟨-, -, age, encryptionAge⟩ := RotationSettings.validate_eq_ok_iff.1 rotation
  obtain ⟨codec, made, -⟩ := TokenCodec.exists_ofSettings token
  refine ⟨⟨codec, made⟩, DailySchedule.exists_ofSettings scheduler,
    fun action before empty => Scheduler.addKeyTasks_of_empty action scheduler empty,
    fun now since before proper =>
      ⟨⟨_, Maintenance.cutoff_eq_ok age.1 age.2 since before proper⟩,
        ⟨_, Maintenance.cutoff_eq_ok encryptionAge.1 encryptionAge.2 since before proper⟩⟩,
    fun plan draws n m count w after ensured draw drawn => ?_⟩
  have positive : 0 < (KeyWindow.ofSettings s.keyRotation).size := Nat.le_max_right _ _
  rw [KeyWindow.exists_select_iff positive, Maintenance.canSign_ensureSigning ensured]

/-- The default settings, with nothing stored: the tasks are listed, and after a refill there is a
    key to sign with. -/
theorem default_works :
    let s : Settings := {}
    let draws : Nat → Draw := fun n => ⟨.ofNat n, [], fun _ => .error .noUsableKey⟩
    let (result, _, after) := (Maintenance.ensureSigning s.keyRotation).run.run
      (World.planned (fun _ => none) draws) (0, .empty ⟨0, 0⟩)
    s.validate = .ok () ∧ ((Scheduler.empty).addKeyTasks id s.scheduler).1 = .ok ()
      ∧ result = .ok 3
      ∧ ∃ key, (((KeyWindow.ofSettings s.keyRotation).select 7).run.run (World.answer (draws 0))
        after).1 = .ok key := by
  intro s draws
  have valid : s.validate = .ok () := by decide
  obtain ⟨-, -, lists, -, selects⟩ := valid_works_unless s valid
  obtain ⟨m, after, ensured⟩ : ∃ m after, (Maintenance.ensureSigning s.keyRotation).run.run
      (World.planned (fun _ => none) draws) (0, .empty ⟨0, 0⟩) = (.ok 3, m, after) := ⟨_, _, rfl⟩
  rw [ensured]
  exact ⟨valid, ((lists id .empty rfl).1 (fun _ => by decide)).1, rfl,
    (selects _ draws 0 m 3 _ after ensured 7 (draws 0)).2 (.inl (by decide))⟩

/-- Two settings that pass validation and do not work. With the first, the task that rotates keys
    reads a clock that is shifted by more than any span; with the second, nobody makes the first
    key. -/
theorem valid_fails :
    let shifted : Settings := { scheduler :=
      { testTaskPrefix := "rotate", testClockOffsetSeconds := 9223372036854775807 } }
    let keyless : Settings := { keyRotation := { minUsableKeys := 0 } }
    let draw : Draw := ⟨.zero, [], fun _ => .error .noUsableKey⟩
    let (result, _, after) := (Maintenance.ensureSigning keyless.keyRotation).run.run
      (World.planned (fun _ => none) fun _ => draw) (0, .empty ⟨0, 0⟩)
    shifted.validate = .ok ()
      ∧ ((Scheduler.empty).addKeyTasks id shifted.scheduler).1 = .error .noClock
      ∧ keyless.validate = .ok () ∧ result = .ok 0
      ∧ (((KeyWindow.ofSettings keyless.keyRotation).select 0).run.run (World.answer draw) after).1
        = .error .noUsableKey := by
  refine ⟨by decide, by decide, by decide, rfl, rfl⟩

end Settings

end Latchkey

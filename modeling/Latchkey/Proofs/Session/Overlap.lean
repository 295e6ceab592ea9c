import Latchkey.Proofs.Key.Crew
import Latchkey.Proofs.Session.Race
import Latchkey.Proofs.Session.Presented

set_option autoImplicit false

/-! # Maintenance that overlaps

Any number of passes and single refills may be in progress on one service. They take turns in any
order, and the wall clock may be set in between, but a call that asks for the refill lock while
another one holds it has to wait. Since every call follows the course of maintenance, each turn is an
advance of the crew of all calls (`Upkeep.OnCourse.move`), and so the end of a run is known whatever
the turns were (`Upkeep.overlapping_upkeep`). -/

namespace Latchkey

open Maintenance (Stage Tally Reaches)

/-! ## Calls in progress -/

/-- What can happen while calls are in progress. -/
inductive Move (ι : Type)
  | tick (clock : Instant)
  | turn (t : Turn ι)

/-- Who holds the refill lock after a request of a caller, unless the request has to wait. -/
def Request.pass? {ι : Type} (i : ι) : Request → Option ι → Option (Option ι)
  | .lockRefill, none => some (some i)
  | .lockRefill, some _ => none
  | .unlockRefill, _ => some none
  | _, holder => some holder

/-- Only the lock has to be waited for, while somebody holds it. -/
theorem Request.pass?_eq_none_iff {ι : Type} {i : ι} {request : Request} {holder : Option ι} :
    request.pass? i holder = none ↔ request = .lockRefill ∧ ∃ j, holder = some j := by
  cases request with
  | lockRefill => cases holder <;> simp [pass?]
  | _ => simp [pass?]

theorem Request.heldBy_effect {ι : Type} {i : ι} {request : Request} {holder holder' : Option ι}
    (passes : request.pass? i holder = some holder') (answer : request.Answer) :
    (request.effect answer).heldBy i holder = holder'
      ∧ (request.effect answer = .locked → holder = none) := by
  cases request with
  | lockRefill =>
    cases holder with
    | none =>
      cases Option.some.inj passes
      exact ⟨rfl, fun _ => rfl⟩
    | some other => cases passes
  | unlockRefill | drawSeed =>
    cases Option.some.inj passes
    exact ⟨rfl, nofun⟩
  | ledger call | drawKeyPair bits =>
    cases Option.some.inj passes
    cases answer <;> exact ⟨rfl, nofun⟩
  | signing call | encryption call =>
    cases Option.some.inj passes
    cases answer with
    | error e => exact ⟨rfl, nofun⟩
    | ok value => cases call <;> exact ⟨rfl, nofun⟩

/-- Calls in progress on one service, and which of them holds the refill lock. -/
structure Upkeep {ι : Type} (calls : ι → UpkeepCall) where
  race : Race fun i => (calls i).Value
  holder : Option ι

namespace Upkeep

variable {ι : Type} {calls : ι → UpkeepCall}

/-- All calls at their beginning. -/
def start (s : RotationSettings) (calls : ι → UpkeepCall) (w : World) : Upkeep calls :=
  ⟨⟨w, fun i => (calls i).program s⟩, none⟩

/-- What the pools have in stock. -/
def stock (u : Upkeep calls) : Stock :=
  u.race.world.stock

/-- Whether nothing fails with a move. -/
def succeeds (s : RotationSettings) (u : Upkeep calls) : Move ι → Bool
  | .tick _ => true
  | .turn t =>
    match u.race.rest t.caller with
    | .done _ => true
    | .ask request _ =>
      (request.effect (u.race.world.respond t.fault t.draw request).1).calm s

theorem usable_subset (u : Upkeep calls) (kind : PoolKind) :
    (u.stock kind).usable ⊆ (u.stock kind).known := by
  cases kind
  · exact u.race.world.signing.usable_subset
  · exact u.race.world.encryption.usable_subset

/-! ## On course -/

/-- The crew of all calls. -/
def crew (u : Upkeep calls) (stage : ι → Stage) : Crew ι :=
  ⟨stage, u.stock, u.holder⟩

/-- Every call is on the course, at its stage and with its tally; the crew is sound, and the accounts
    are right. -/
structure OnCourse [Fintype ι] (s : RotationSettings) (u : Upkeep calls) (stage : ι → Stage)
    (tally : ι → Tally) (retired : PoolKind → Finset Uuid) : Prop where
  walks : ∀ i, (u.race.rest i).Walks s (calls i).isFull
    (fun value => Reaches ((calls i).reported value) .ended) (stage i) (tally i)
  sound : (u.crew stage).Sound s fun i => (calls i).isFull
  accounted : Accounted u.stock retired tally

namespace OnCourse

variable [Fintype ι] {s : RotationSettings} {u : Upkeep calls} {stage : ι → Stage}
  {tally : ι → Tally} {retired : PoolKind → Finset Uuid}

/-- Unless all calls have ended, the next request of one of them does not have to wait. -/
theorem ended_or_passes (h : u.OnCourse s stage tally retired) :
    (∀ i, ∃ value, u.race.rest i = .done value)
      ∨ ∃ i request next holder, u.race.rest i = .ask request next
        ∧ request.pass? i u.holder = some holder := by
  by_contra stuck
  obtain ⟨running, waits⟩ := not_or.1 stuck
  -- A call that has to wait asks for the lock, and waits for its holder.
  have asksLock : ∀ {i request next}, u.race.rest i = .ask request next →
      request = .lockRefill ∧ ∃ j, u.holder = some j := by
    intro i request next asks
    refine (Request.pass?_eq_none_iff (i := i)).1 ?_
    refine Option.eq_none_iff_forall_ne_some.2 fun holder passes => ?_
    exact waits ⟨i, request, next, holder, asks, passes⟩
  obtain ⟨i, unfinished⟩ := not_forall.1 running
  obtain ⟨j, held⟩ : ∃ j, u.holder = some j := by
    cases asks : u.race.rest i with
    | done value => exact absurd ⟨value, asks⟩ unfinished
    | ask request next => exact (asksLock asks).2
  -- The holder is inside a refill, where it neither ends nor asks for the lock.
  have inside : (stage j).Holds := (h.sound.locked j).2 held
  have walks := h.walks j
  cases asks : u.race.rest j with
  | done value =>
    rw [asks] at walks
    obtain ⟨ended, -⟩ := walks
    rw [← ended] at inside
    exact inside
  | ask request next =>
    obtain ⟨rfl, -⟩ := asksLock asks
    rw [asks] at walks
    obtain ⟨stage', step, -⟩ := walks () rfl
    generalize stage j = here at step inside
    cases step
    exact inside

/-- When all calls have ended, their reports add up to the keys that have been retired, and the pools
    that they serve have reached their targets. -/
theorem at_end (h : u.OnCourse s stage tally retired) {results : (i : ι) → (calls i).Value}
    (ended : ∀ i, u.race.rest i = .done (results i)) :
    (∀ kind, (retired kind).card = ∑ i, (calls i).reported (results i) kind)
      ∧ ∀ kind i, kind = .signing ∨ (calls i).isFull = true →
        Maintenance.target s kind ≤ u.stock.count kind := by
  have done : ∀ i, .ended = stage i ∧ (calls i).reported (results i) = tally i := fun i => by
    have walks := h.walks i
    rw [ended i] at walks
    exact walks
  constructor
  · intro kind
    rw [h.accounted.card]
    exact Finset.sum_congr rfl fun i _ => congrFun (done i).2.symm kind
  · intro kind i serves
    exact h.sound.target_le (fun j => (done j).1.symm) serves

end OnCourse

/-! ## Moves -/

variable [DecidableEq ι]

/-- Sets the clock, or answers the next request of a caller. Nothing happens if the caller has ended
    or has to wait. -/
def move (u : Upkeep calls) : Move ι → Upkeep calls
  | .tick clock => ⟨⟨{ u.race.world with clock := clock }, u.race.rest⟩, u.holder⟩
  | .turn t =>
    match u.race.rest t.caller with
    | .done _ => u
    | .ask request _ =>
      match request.pass? t.caller u.holder with
      | none => u
      | some holder => ⟨u.race.turn t, holder⟩

/-- The calls after some moves. -/
def after (u : Upkeep calls) (moves : List (Move ι)) : Upkeep calls :=
  moves.foldl move u

/-- Whether nothing fails in the course of some moves. -/
def calm (s : RotationSettings) (u : Upkeep calls) : List (Move ι) → Bool
  | [] => true
  | m :: rest => u.succeeds s m && (u.move m).calm s rest

/-- The keys of a pool that go from usable to retired in the course of some moves. -/
def retired (u : Upkeep calls) : List (Move ι) → PoolKind → Finset Uuid
  | [], _ => ∅
  | m :: rest, kind => u.stock.gone (u.move m).stock kind ∪ (u.move m).retired rest kind

theorem after_concat (u : Upkeep calls) (moves : List (Move ι)) (m : Move ι) :
    u.after (moves ++ [m]) = (u.after moves).move m := by
  simp [after]

theorem calm_concat (s : RotationSettings) (u : Upkeep calls) (moves : List (Move ι)) (m : Move ι) :
    u.calm s (moves ++ [m]) = (u.calm s moves && (u.after moves).succeeds s m) := by
  induction moves generalizing u with
  | nil => simp [calm, after]
  | cons first rest ih => simp [calm, ih, after, Bool.and_assoc]

theorem calm_of_prefix {s : RotationSettings} {u : Upkeep calls} {pre moves : List (Move ι)}
    (h : pre <+: moves) (calm : u.calm s moves = true) : u.calm s pre = true := by
  obtain ⟨post, rfl⟩ := h
  induction pre generalizing u with
  | nil => rfl
  | cons first rest ih =>
    obtain ⟨now, later⟩ := Bool.and_eq_true_iff.1 calm
    exact Bool.and_eq_true_iff.2 ⟨now, ih later⟩

theorem retired_concat (u : Upkeep calls) (moves : List (Move ι)) (m : Move ι) :
    u.retired (moves ++ [m]) = fun kind =>
      u.retired moves kind ∪ (u.after moves).stock.gone ((u.after moves).move m).stock kind := by
  funext kind
  induction moves generalizing u with
  | nil => simp [retired, after]
  | cons first rest ih => simp [retired, ih, after]

namespace OnCourse

variable [Fintype ι] {s : RotationSettings} {u : Upkeep calls} {stage : ι → Stage}
  {tally : ι → Tally} {retired : PoolKind → Finset Uuid} {m : Move ι}

/-- What a turn that is answered does. -/
theorem turn {t : Turn ι} {request : Request} {holder : Option ι}
    {next : request.Answer → Program Request Request.Answer (calls t.caller).Value}
    (h : u.OnCourse s stage tally retired) (asks : u.race.rest t.caller = .ask request next)
    (passes : request.pass? t.caller u.holder = some holder)
    (calm : (request.effect (u.race.world.respond t.fault t.draw request).1).calm s = true) :
    let u' : Upkeep calls := ⟨u.race.turn t, holder⟩
    ∃ stage' tally', Advance s (fun i => (calls i).isFull) (u.crew stage) (u'.crew stage')
      ∧ u'.OnCourse s stage' tally' fun kind => retired kind ∪ u.stock.gone u'.stock kind := by
  intro u'
  have mine := h.walks t.caller
  rw [asks] at mine
  obtain ⟨stage', step, walks⟩ := mine _ calm
  have occurs := World.occurs_respond u.race.world t.fault t.draw request
    (Effect.ne_failed_of_calm calm)
  obtain ⟨held, free⟩ := Request.heldBy_effect passes
    (u.race.world.respond t.fault t.draw request).1
  have stock : u'.stock = (u.race.world.respond t.fault t.draw request).2.stock := by
    rw [Upkeep.stock, Race.world_turn_of_ask asks]
  rw [← stock] at occurs
  have advance : Advance s (fun i => (calls i).isFull) (u.crew stage)
      ⟨Function.update stage t.caller stage', u'.stock,
        (request.effect (u.race.world.respond t.fault t.draw request).1).heldBy t.caller u.holder⟩ :=
    advance_of_step step occurs free u.usable_subset
  rw [held] at advance
  refine ⟨_, _, advance, ⟨fun i => ?_, h.sound.advance advance,
    h.accounted.occurs occurs u.usable_subset t.caller⟩⟩
  by_cases own : i = t.caller
  · subst own
    rw [Function.update_self, Function.update_self, Race.rest_turn_of_ask asks]
    exact walks
  · rw [Function.update_of_ne own, Function.update_of_ne own, Race.rest_turn_of_ne own]
    exact h.walks i

/-- A move that fails nothing is an advance of the crew, which stays on course. -/
theorem move (h : u.OnCourse s stage tally retired) (calm : u.succeeds s m = true) :
    ∃ stage' tally', Advance s (fun i => (calls i).isFull) (u.crew stage) ((u.move m).crew stage')
      ∧ (u.move m).OnCourse s stage' tally'
        fun kind => retired kind ∪ u.stock.gone (u.move m).stock kind := by
  have waits : u.OnCourse s stage tally fun kind => retired kind ∪ u.stock.gone u.stock kind :=
    ⟨h.walks, h.sound, h.accounted.rest⟩
  cases m with
  | tick clock => exact ⟨stage, tally, .rests _, waits.walks, waits.sound, waits.accounted⟩
  | turn t =>
    cases asks : u.race.rest t.caller with
    | done value =>
      have same : u.move (.turn t) = u := by simp [Upkeep.move, asks]
      rw [same]
      exact ⟨stage, tally, .rests _, waits⟩
    | ask request next =>
      simp only [succeeds, asks] at calm
      cases passes : request.pass? t.caller u.holder with
      | none =>
        have same : u.move (.turn t) = u := by simp [Upkeep.move, asks, passes]
        rw [same]
        exact ⟨stage, tally, .rests _, waits⟩
      | some holder =>
        have moved : u.move (.turn t) = ⟨u.race.turn t, holder⟩ := by
          simp [Upkeep.move, asks, passes]
        rw [moved]
        exact h.turn asks passes calm

/-- As long as nothing fails, all calls are on course. -/
theorem after (s : RotationSettings) (calls : ι → UpkeepCall) (w : World) (moves : List (Move ι))
    (calm : (start s calls w).calm s moves = true) :
    ∃ stage tally,
      ((start s calls w).after moves).OnCourse s stage tally ((start s calls w).retired moves) := by
  induction moves using List.reverseRecOn with
  | nil =>
    exact ⟨fun _ => .retiring .signing, fun _ _ => 0, fun i => (calls i).walks_program s,
      Crew.sound_start s _ _, .start _⟩
  | append_singleton moves m ih =>
    rw [calm_concat, Bool.and_eq_true_iff] at calm
    obtain ⟨stage, tally, before⟩ := ih calm.1
    obtain ⟨stage', tally', -, onward⟩ := before.move calm.2
    rw [after_concat, retired_concat]
    exact ⟨stage', tally', onward⟩

/-- A move creates a key only where the target leaves room for it. -/
theorem within_target (h : u.OnCourse s stage tally retired) (calm : u.succeeds s m = true) :
    (u.stock.count .signing < (u.move m).stock.count .signing →
        (u.move m).stock.count .signing ≤ s.minUsableKeys)
      ∧ (((u.move m).stock .encryption).known ≠ (u.stock .encryption).known →
        (u.stock .encryption).usable = ∅) := by
  obtain ⟨stage', -, advance, -⟩ := h.move calm
  constructor
  · intro more
    rcases h.sound.created advance .signing with ⟨-, room⟩ | ⟨-, fewer⟩
    · exact room
    · exact absurd more (Nat.not_lt.2 fewer)
  · intro changed
    rcases h.sound.created advance .encryption with ⟨more, room⟩ | ⟨same, -⟩
    · have fits : u.stock.count .encryption + 1 ≤ 1 := more.symm.le.trans room
      exact Finset.card_eq_zero.1 (Nat.le_zero.1 (Nat.le_of_succ_le_succ fits))
    · exact absurd same changed

end OnCourse

/-! ## Whole runs -/

variable [Fintype ι]

/-- As long as nothing fails, there is always a call that need not wait, unless all have ended. -/
theorem never_stuck (s : RotationSettings) (calls : ι → UpkeepCall) (w : World)
    (moves : List (Move ι)) (calm : (start s calls w).calm s moves = true) :
    let u := (start s calls w).after moves
    (∀ i, ∃ value, u.race.rest i = .done value)
      ∨ ∃ i request next holder, u.race.rest i = .ask request next
        ∧ request.pass? i u.holder = some holder := by
  obtain ⟨stage, tally, course⟩ := OnCourse.after s calls w moves calm
  exact course.ended_or_passes

/-- Passes and single refills may overlap freely: whatever the calls and their turns are, as long as
    nothing fails, no move takes the usable signing keys above the minimum, and none creates an
    encryption key while one is usable. Once all calls have ended, they have reported exactly the keys
    of each pool that went from usable to retired; if there is a call at all, at least the minimum of
    signing keys is usable, and if there is a full pass, an encryption key is. -/
theorem overlapping_upkeep (s : RotationSettings) (calls : ι → UpkeepCall) (w : World)
    (moves : List (Move ι)) (calm : (start s calls w).calm s moves = true) :
    (∀ pre m, pre ++ [m] <+: moves →
      let before := ((start s calls w).after pre).stock
      let later := ((start s calls w).after (pre ++ [m])).stock
      (before.count .signing < later.count .signing → later.count .signing ≤ s.minUsableKeys)
        ∧ ((later .encryption).known ≠ (before .encryption).known →
          (before .encryption).usable = ∅))
      ∧ ∀ results : (i : ι) → (calls i).Value,
        (∀ i, ((start s calls w).after moves).race.rest i = .done (results i)) →
        let ending := ((start s calls w).after moves).stock
        (∀ kind, ((start s calls w).retired moves kind).card
            = ∑ i, (calls i).reported (results i) kind)
          ∧ (Nonempty ι → s.minUsableKeys ≤ ending.count .signing)
          ∧ ((∃ i, (calls i).isFull = true) → 1 ≤ ending.count .encryption) := by
  constructor
  · intro pre m happened before later
    have calm := calm_of_prefix happened calm
    rw [calm_concat, Bool.and_eq_true_iff] at calm
    obtain ⟨stage, tally, course⟩ := OnCourse.after s calls w pre calm.1
    simp only [later, after_concat]
    exact course.within_target calm.2
  · intro results ended ending
    obtain ⟨stage, tally, course⟩ := OnCourse.after s calls w moves calm
    obtain ⟨reported, reached⟩ := course.at_end ended
    exact ⟨reported, fun ⟨i⟩ => reached .signing i (.inl rfl),
      fun ⟨i, isFull⟩ => reached .encryption i (.inr isFull)⟩

/-- A refill counts the only signing key as usable, and a pass that is under way then retires it. The
    pass has to wait until the refill has ended, and creates the key that is missing. -/
theorem pass_refills_behind_refill :
    let s : RotationSettings := { minUsableKeys := 1 }
    let now : Instant := ⟨31 * 86400, 0⟩
    let calls : Bool → UpkeepCall := fun isPass => if isPass then .pass now else .refill
    let turn (isPass : Bool) (id : Nat) : Move Bool :=
      .turn ⟨isPass, none, .ofNat id, [], fun _ => .ok ⟨"", "", "", ""⟩⟩
    let moves := [turn true 0, turn false 0, turn false 0, .tick now, turn true 0, turn true 0,
      turn false 0] ++ (List.range 11).map fun n => turn true (n + 2)
    let begun := start s calls (.withKey (.ofNat 1) .empty)
    let ending := (begun.after moves).stock
    begun.calm s moves = true
      ∧ (begun.after moves).race.rest true = .done ⟨1, 1, 0, 1, []⟩
      ∧ (begun.after moves).race.rest false = .done (.ok 0)
      ∧ (begun.retired moves .signing).card = 1 ∧ (begun.retired moves .encryption).card = 0
      ∧ 1 ≤ ending.count .signing ∧ 1 ≤ ending.count .encryption := by
  intro s now calls turn moves begun ending
  have calm : begun.calm s moves = true := by decide +kernel
  have pass : (begun.after moves).race.rest true = .done ⟨1, 1, 0, 1, []⟩ := by
    unfold begun moves calls turn now s
    rfl
  have refill : (begun.after moves).race.rest false = .done (.ok 0) := by
    unfold begun moves calls turn now s
    rfl
  obtain ⟨-, atEnd⟩ := overlapping_upkeep s calls (.withKey (.ofNat 1) .empty) moves calm
  obtain ⟨reported, signing, encryption⟩ := atEnd
    (fun | true => (⟨1, 1, 0, 1, []⟩ : MaintenanceReport) | false => (.ok 0 : Except Error Nat))
    (fun | true => pass | false => refill)
  exact ⟨calm, pass, refill, reported .signing, reported .encryption, signing ⟨true⟩,
    encryption ⟨true, rfl⟩⟩

end Upkeep

end Latchkey

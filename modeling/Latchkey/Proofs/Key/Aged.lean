import Latchkey.Proofs.Key.Pass
import Latchkey.Proofs.Settings.Validated

set_option autoImplicit false

/-! # Which keys outlive their age

A pass looks at no more than `Maintenance.scanLimit` usable keys of a pool, the newest ones. A key
that is too old is therefore retired if fewer usable keys than that have larger identifiers; beyond
that it stays in service, however old it is, and the pass reports success
(`Maintenance.leaves_only_unlisted`). -/

namespace Latchkey

/-! ## The newest keys -/

/-- In an ordered list, a member is among the first ones if few members come before it. -/
theorem mem_take_iff_of_pairwise {α : Type} {r : α → α → Prop} [DecidableRel r]
    (asymm : ∀ a b, r a b → ¬ r b a) {l : List α} (ordered : l.Pairwise r) (a : α) (n : Nat) :
    a ∈ l.take n ↔ a ∈ l ∧ (l.filter fun b => r b a).length < n := by
  induction l generalizing n with
  | nil => simp
  | cons first rest ih =>
    obtain ⟨before, ordered⟩ := List.pairwise_cons.1 ordered
    cases n with
    | zero => simp
    | succ n =>
      rw [List.take_succ_cons, List.mem_cons, ih ordered, List.mem_cons, List.filter_cons]
      by_cases same : a = first
      · subst same
        have none : rest.filter (fun b => r b a) = [] :=
          List.filter_eq_nil_iff.2 fun b mem => by simpa using asymm a b (before b mem)
        have itself : ¬ r a a := fun h => asymm a a h h
        simp [none, itself]
      · simp only [same, false_or]
        refine and_congr_right fun mem => ?_
        simp [before a mem]

namespace Pool

variable {μ : Type} {pool : Pool μ} {key : StoredKey μ} {time : Instant}

/-- The usable keys that are newer than a key. -/
def newer (pool : Pool μ) (key : StoredKey μ) : List (StoredKey μ) :=
  pool.keys.filter fun other => other.isUsable ∧ key.older other

theorem newer_eq (pool : Pool μ) (key : StoredKey μ) : pool.newer key
    = (pool.keys.filter StoredKey.isUsable).filter fun other => key.older other := by
  rw [List.filter_filter, newer]
  simp only [Bool.decide_and, Bool.decide_eq_true, Bool.and_comm]

/-- A usable key is listed if there are few usable keys that are newer. -/
theorem mem_recentUsable_iff (limit : Nat) : key ∈ pool.recentUsable limit
    ↔ key ∈ pool.keys ∧ key.isUsable = true ∧ (pool.newer key).length < limit := by
  have falling : (pool.keys.reverse.filter StoredKey.isUsable).Pairwise fun a b => b.older a :=
    (List.pairwise_reverse.2 pool.ordered).filter _
  rw [recentUsable, mem_take_iff_of_pairwise (r := fun a b => b.older a)
    (fun a b older => Nat.lt_asymm older) falling, newer_eq, List.filter_reverse,
    List.filter_reverse, List.length_reverse, List.mem_reverse, List.mem_filter, and_assoc]

theorem length_newer_lt (mem : key ∈ pool.keys) (fit : key.isUsable = true) :
    (pool.newer key).length < pool.shelf.usable.card := by
  rw [card_usable, newer_eq, List.length_filter_lt_length_iff_exists]
  -- The key is not newer than itself.
  exact ⟨key, List.mem_filter.2 ⟨mem, fit⟩, by simp [StoredKey.older]⟩

/-- The usable keys of a pool after a retirement. -/
theorem mem_retireAll_iff (ids : List Uuid) :
    key ∈ (pool.retireAll ids time).keys ∧ key.isUsable = true
      ↔ (key ∈ pool.keys ∧ key.isUsable = true) ∧ key.id ∉ ids := by
  induction ids generalizing pool with
  | nil => simp
  | cons id ids ih =>
    have one : key ∈ (pool.retire id time).keys ∧ key.isUsable = true
        ↔ (key ∈ pool.keys ∧ key.isUsable = true) ∧ key.id ≠ id := by
      rw [mem_retire]
      constructor
      · rintro ⟨⟨old, inside, rfl⟩, fit⟩
        rw [isUsable_retireIf, Bool.and_eq_true, decide_eq_true_iff] at fit
        rw [retireIf, if_neg fun h => fit.2 h.1]
        exact ⟨⟨inside, fit.1⟩, fit.2⟩
      · rintro ⟨⟨inside, fit⟩, other⟩
        exact ⟨⟨key, inside, if_neg fun h => other h.1⟩, fit⟩
    rw [retireAll_cons, ih, one, List.mem_cons, not_or, and_assoc]

/-- A key is found to be too old if it is usable, was created before the limit, and few usable keys
    are newer. -/
theorem mem_aged_iff {limit : Instant} : key ∈ pool.aged limit ↔ key ∈ pool.keys
    ∧ key.isUsable = true ∧ key.createdAt < limit
    ∧ (pool.newer key).length < Maintenance.scanLimit := by
  rw [aged, List.mem_filter, mem_recentUsable_iff, decide_eq_true_iff]
  tauto

theorem id_mem_aged_iff {limit : Instant} (mem : key ∈ pool.keys) :
    key.id ∈ (pool.aged limit).map (·.id) ↔ key ∈ pool.aged limit := by
  refine ⟨fun among => ?_, List.mem_map_of_mem⟩
  obtain ⟨other, listed, same⟩ := List.mem_map.1 among
  rwa [← eq_of_id_eq (mem_aged_iff.1 listed).1 mem same]

end Pool

/-! ## Ages -/

/-- The instant so many days earlier. -/
def Instant.daysBefore (time : Instant) (days : Int) : Instant :=
  ⟨time.seconds - Span.secondsPerDay * days, time.nanos⟩

theorem Instant.not_lt_daysBefore {time : Instant} {days : Int} (positive : 0 < days) :
    ¬ time < time.daysBefore days := by
  rw [lt_def]
  simp only [daysBefore, Span.secondsPerDay]
  omega

namespace Maintenance

variable {now earlier limit : Instant} {days : Int}

/-- The limit of an age lies so many days before the instant, if a span has room for the days and the
    range of instants for the limit. -/
theorem cutoff_eq_ok_iff (proper : now.nanos < Instant.nanosPerSecond) : cutoff now days = .ok limit
    ↔ (-Span.maxSeconds ≤ Span.secondsPerDay * days ∧ Span.secondsPerDay * days ≤ Span.maxSeconds)
      ∧ Instant.inRange (now.seconds - Span.secondsPerDay * days) = true
      ∧ limit = now.daysBefore days := by
  have found : cutoff now days = .ok limit ↔ (Span.ofDays? days).bind now.sub? = some limit := by
    unfold cutoff
    cases (Span.ofDays? days).bind now.sub? <;> simp
  rw [found, Option.bind_eq_some_iff]
  constructor
  · rintro ⟨span, ofDays, earlier⟩
    obtain ⟨room, same⟩ := Option.ite_none_right_eq_some.1 ofDays
    obtain rfl := Option.some.inj same
    rw [Instant.sub?_seconds proper] at earlier
    obtain ⟨within, same⟩ := Option.ite_none_right_eq_some.1 earlier
    exact ⟨room, within, (Option.some.inj same).symm⟩
  · rintro ⟨room, within, rfl⟩
    exact ⟨_, if_pos room, by rw [Instant.sub?_seconds proper, if_pos within]; rfl⟩

theorem eq_daysBefore_of_cutoff (proper : now.nanos < Instant.nanosPerSecond)
    (inside : cutoff now days = .ok limit) : limit = now.daysBefore days :=
  ((cutoff_eq_ok_iff proper).1 inside).2.2

/-- An age that has had a limit keeps having one. -/
theorem cutoff_of_le (positive : 0 < days) (proper : earlier.nanos < Instant.nanosPerSecond)
    (inside : cutoff earlier days = .ok limit) (passed : earlier ≤ now)
    (proper' : now.nanos < Instant.nanosPerSecond) (represented : Instant.inRange now.seconds = true) :
    cutoff now days = .ok (now.daysBefore days) := by
  obtain ⟨room, within, -⟩ := (cutoff_eq_ok_iff proper).1 inside
  refine (cutoff_eq_ok_iff proper').2 ⟨room, ?_, rfl⟩
  have seconds := Instant.seconds_le_of_le passed
  simp only [Instant.inRange, Bool.and_eq_true, decide_eq_true_iff] at within represented ⊢
  simp only [Span.secondsPerDay] at within ⊢
  omega

end Maintenance

/-! ## Keys that stay -/

namespace Maintenance

theorem maxAge_pos {s : RotationSettings} (valid : s.validate = .ok ()) (kind : PoolKind) :
    0 < maxAge s kind := by
  obtain ⟨-, -, age, encryptionAge⟩ := RotationSettings.validate_eq_ok_iff.1 valid
  cases kind with
  | signing => exact age.1
  | encryption => exact encryptionAge.1

/-- What the two steps leave in service of a pool if the first one succeeds. -/
theorem Maintained.mem_usable_iff {s : RotationSettings} {now clock limit : Instant}
    {plan : Nat → Option Error} {draws : Nat → Draw} {n m count : Nat} {kind : PoolKind}
    {pool later : Pool kind.Material} {gone new : List (StoredKey kind.Material)}
    {created : Except Error Nat}
    (h : Maintained s now plan draws clock n m kind pool later gone new (.ok count) created)
    (inside : cutoff now (maxAge s kind) = .ok limit) (key : StoredKey kind.Material) :
    key ∈ later.keys ∧ key.isUsable = true ↔ key ∈ new
      ∨ (key ∈ pool.keys ∧ key.isUsable = true) ∧ key.id ∉ (pool.aged limit).map (·.id) := by
  obtain ⟨retirement, result, filling, -⟩ := h
  obtain ⟨time, inside', rfl, -⟩ := retirement.exists_limit
  obtain rfl := Except.ok.inj (inside.symm.trans inside')
  rw [filling.keys.mem_iff, List.mem_append, or_and_right, Pool.mem_retireAll_iff]
  exact or_congr_left (and_iff_left_of_imp fun mem => (filling.made key mem).1)

/-- A pass that reports no error, at the time of the wall clock and under valid settings, leaves in
    service, of the keys that are too old then, exactly those that had `scanLimit` or more newer
    usable keys in their pool before the pass. So it leaves none in a pool that had no more than
    `scanLimit` usable keys. -/
theorem leaves_only_unlisted (s : RotationSettings) (valid : s.validate = .ok ())
    (plan : Nat → Option Error) (draws : Nat → Draw) (w : World)
    (proper : w.clock.nanos < Instant.nanosPerSecond) :
    let (report, _, after) := (pass s w.clock).run (World.planned plan draws) (0, w)
    report.errors = [] → ∀ kind,
      (∀ key : StoredKey kind.Material, key.createdAt < w.clock.daysBefore (maxAge s kind) →
        (key ∈ (after.pool kind).keys ∧ key.isUsable = true
          ↔ key ∈ (w.pool kind).keys ∧ key.isUsable = true
            ∧ scanLimit ≤ ((w.pool kind).newer key).length))
      ∧ (w.stock.count kind ≤ scanLimit → ∀ key ∈ (after.pool kind).keys, key.isUsable = true →
        ¬ key.createdAt < w.clock.daysBefore (maxAge s kind)) := by
  obtain ⟨asked, after, ran, -, -, tended⟩ := exists_maintained s w.clock plan draws w
  rw [ran]
  intro success kind
  obtain ⟨count, retired⟩ := MaintenanceReport.errors_ofResults_eq_nil_iff.1 success (.retire kind)
  obtain ⟨gone, new, tended⟩ := tended kind
  rw [retired] at tended
  have left : ∀ key : StoredKey kind.Material, key.createdAt < w.clock.daysBefore (maxAge s kind) →
      (key ∈ (after.pool kind).keys ∧ key.isUsable = true
        ↔ key ∈ (w.pool kind).keys ∧ key.isUsable = true
          ∧ scanLimit ≤ ((w.pool kind).newer key).length) := by
    intro key old
    obtain ⟨limit, inside, -⟩ := tended.retirement.exists_limit
    obtain rfl := eq_daysBefore_of_cutoff proper inside
    rw [tended.mem_usable_iff inside key]
    constructor
    · rintro (isNew | ⟨⟨before, fit⟩, unlisted⟩)
      · -- What is created bears the time of the wall clock.
        obtain ⟨result, filling, -⟩ := tended.refill
        rw [(filling.made key isNew).2.1] at old
        exact absurd old (Instant.not_lt_daysBefore (maxAge_pos valid kind))
      · rw [Pool.id_mem_aged_iff before, Pool.mem_aged_iff] at unlisted
        exact ⟨before, fit, Nat.not_lt.1 fun few => unlisted ⟨before, fit, old, few⟩⟩
    · rintro ⟨before, fit, many⟩
      refine .inr ⟨⟨before, fit⟩, fun listed => ?_⟩
      rw [Pool.id_mem_aged_iff before, Pool.mem_aged_iff] at listed
      exact absurd listed.2.2.2 (Nat.not_lt.2 many)
  refine ⟨left, fun few key mem fit old => ?_⟩
  obtain ⟨before, -, many⟩ := (left key old).1 ⟨mem, fit⟩
  have fewer := Pool.length_newer_lt before fit
  rw [Stock.count, World.stock_eq] at few
  omega

/-! ## Old keys above and below the limit -/

/-- A usable signing key, by its identifier and the second of its creation. -/
def usableKey (n : Nat) (seconds : Int) : SigningKey :=
  ⟨.ofNat n, ⟨"private", "public"⟩, ⟨seconds, 0⟩, none⟩

/-- A pool with a single usable key pair. -/
def singlePair : Pool EncryptionMaterial where
  keys := [⟨.ofNat 1, ⟨"public", "private", "AQAB", "AQAB"⟩, ⟨1700000000, 0⟩, none⟩]
  ordered := by decide

/-- An old signing key and a new one: the pass retires the old one. -/
theorem retires_old_key :
    let s : RotationSettings := { minUsableKeys := 1 }
    let w : World := ⟨⟨1700000000, 0⟩, ⟨[usableKey 1 1600000000, usableKey 2 1700000000], by decide⟩,
      singlePair, .empty⟩
    let draws : Nat → Draw := fun _ => ⟨.zero, [], fun _ => .error .noUsableKey⟩
    let (report, _, after) := (pass s w.clock).run (World.planned (fun _ => none) draws) (0, w)
    s.validate = .ok () ∧ report = ⟨1, 0, 0, 0, []⟩
      ∧ ∀ key ∈ after.signing.keys, key.isUsable = true →
        ¬ key.createdAt < w.clock.daysBefore s.maxKeyAgeDays := by
  intro s w draws
  have valid : s.validate = .ok () := by decide
  have report : ((pass s w.clock).run (World.planned (fun _ => none) draws) (0, w)).1
      = ⟨1, 0, 0, 0, []⟩ := by decide
  have left := leaves_only_unlisted s valid (fun _ => none) draws w (by decide)
    (by rw [report]) .signing
  exact ⟨valid, report, left.2 (by decide)⟩

/-- The default ages reach back to instants in range. -/
theorem cutoff_default (kind : PoolKind) : cutoff ⟨1700000000, 0⟩ (maxAge {} kind)
    = .ok (Instant.daysBefore ⟨1700000000, 0⟩ (maxAge {} kind)) := by
  cases kind <;>
    exact cutoff_eq_ok (by decide) (by decide) (by decide) (by decide) (by decide)

/-- An old key, below as many new ones as a pass looks at. -/
def crowdedPool : Pool SigningMaterial where
  keys := usableKey 1 1600000000 :: (List.range' 2 scanLimit).map fun n => usableKey n 1700000000
  ordered := by
    have number : ∀ n ∈ List.range' 2 scanLimit, (Uuid.ofNat n).toNat = n := by
      intro n mem
      have below := (List.mem_range'_1.1 mem).2
      exact Nat.mod_eq_of_lt (below.trans (by decide))
    refine List.pairwise_cons.2 ⟨fun key mem => ?_, List.pairwise_map.2 ?_⟩
    · obtain ⟨n, among, rfl⟩ := List.mem_map.1 mem
      show (Uuid.ofNat 1).toNat < (Uuid.ofNat n).toNat
      rw [number n among]
      exact (List.mem_range'_1.1 among).1
    · refine (List.pairwise_lt_range' (s := 2) (n := scanLimit)).imp_of_mem fun mem mem' less => ?_
      show (Uuid.ofNat _).toNat < (Uuid.ofNat _).toNat
      rwa [number _ mem, number _ mem']

/-- The old key has as many newer keys above it. -/
theorem length_newer_crowdedPool :
    (crowdedPool.newer (usableKey 1 1600000000)).length = scanLimit := by
  have ordered := List.pairwise_cons.1 crowdedPool.ordered
  have itself : ¬ (usableKey 1 1600000000).older (usableKey 1 1600000000) := Nat.lt_irrefl _
  rw [Pool.newer, crowdedPool, List.filter_cons_of_neg (by simp [itself]),
    List.filter_eq_self.2 fun key mem => ?_, List.length_map, List.length_range']
  obtain ⟨n, -, rfl⟩ := List.mem_map.1 mem
  exact decide_eq_true ⟨rfl, ordered.1 _ mem⟩

/-- None of the keys that a pass finds in the crowded pool is too old. -/
theorem aged_crowdedPool {limit : Instant} (past : limit ≤ ⟨1700000000, 0⟩) :
    crowdedPool.aged limit = [] := by
  refine List.eq_nil_iff_forall_not_mem.2 fun key mem => ?_
  obtain ⟨inside, -, old, few⟩ := Pool.mem_aged_iff.1 mem
  rcases List.mem_cons.1 inside with rfl | inside
  · rw [length_newer_crowdedPool] at few
    exact Nat.lt_irrefl _ few
  · obtain ⟨n, -, rfl⟩ := List.mem_map.1 inside
    exact past old

/-- A pass over the crowded pool reports success, and the old key stays in service. -/
theorem misses_unlisted_key :
    let s : RotationSettings := {}
    let w : World := ⟨⟨1700000000, 0⟩, crowdedPool, singlePair, .empty⟩
    let draws : Nat → Draw := fun _ => ⟨.zero, [], fun _ => .error .noUsableKey⟩
    let (report, _, after) := (pass s w.clock).run (World.planned (fun _ => none) draws) (0, w)
    s.validate = .ok () ∧ report.errors = []
      ∧ ∃ key ∈ after.signing.keys, key.isUsable = true
        ∧ key.createdAt < w.clock.daysBefore s.maxKeyAgeDays := by
  intro s w draws
  have inside : ∀ kind,
      cutoff w.clock (maxAge s kind) = .ok (w.clock.daysBefore (maxAge s kind)) :=
    cutoff_default
  have nothing : ∀ kind, (w.pool kind).aged (w.clock.daysBefore (maxAge s kind)) = [] := by
    intro kind
    cases kind with
    | signing => exact aged_crowdedPool (by decide)
    | encryption => rfl
  have enough : ∀ kind, target s kind ≤ (w.stock kind).usable.card := by
    intro kind
    cases kind with
    | signing =>
      have many : (crowdedPool.newer (usableKey 1 1600000000)).length < _ :=
        Pool.length_newer_lt (List.mem_cons_self ..) rfl
      rw [length_newer_crowdedPool] at many
      exact Nat.le_trans (by decide) many.le
    | encryption => decide
  obtain ⟨report, asked, after, ran, -, -, calm⟩ :=
    exists_maintained_of_calm s w.clock _ inside draws w
  -- Nothing is found to be too old, so nothing is missing either.
  obtain ⟨success, tended⟩ := calm fun kind missing => by
    rw [Pool.pruned_of_aged_eq_nil (nothing kind), ← World.stock_eq] at missing
    exact absurd (enough kind) (Nat.not_le.2 missing)
  obtain ⟨new, tended, -⟩ := tended .signing
  obtain ⟨mem, fit⟩ := (tended.mem_usable_iff (inside .signing) (usableKey 1 1600000000)).2
    (.inr ⟨⟨List.mem_cons_self .., rfl⟩, by rw [nothing .signing]; simp⟩)
  rw [ran]
  exact ⟨by decide, success, _, mem, fit, by decide⟩

end Maintenance

end Latchkey

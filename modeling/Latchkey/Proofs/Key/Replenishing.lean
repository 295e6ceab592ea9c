import Latchkey.Proofs.Key.Aged

set_option autoImplicit false

/-! # What a pass does when nothing fails

If the limits of both ages are in range, no call fails and what is drawn is good, then a pass
retires exactly the old keys that it looks at, creates exactly what is missing after that, and
leaves everything else as it is (`Maintenance.replenishes_exactly`). -/

namespace Latchkey

namespace Maintenance

variable {s : RotationSettings} {now clock : Instant} {plan : Nat → Option Error}
  {draws : Nat → Draw} {n m asked : Nat} {w after : World} {kind : PoolKind}

/-- What is drawn for the requests before `asked` is good for new keys of a pool: no identifier is
    used or drawn twice, and key pairs of the size of the settings can be generated if that is what
    the pool holds. -/
structure DrawsWell (s : RotationSettings) (draws : Nat → Draw) (asked : Nat) (w : World)
    (kind : PoolKind) : Prop where
  unused : ∀ i < asked, (draws i).keyId ∉ (w.stock kind).known
  distinct : ∀ i < asked, ∀ j < i, (draws j).keyId ≠ (draws i).keyId
  large : kind = .encryption → minModulusBits ≤ s.encryptionKeyBits
  pairs : kind = .encryption → ∀ i < asked, ∃ material,
    (draws i).keyPair s.encryptionKeyBits = .ok material

/-- Then nothing stands in the way of a refill. -/
theorem DrawsWell.clear (h : DrawsWell s draws asked w kind) (ids : List Uuid) :
    ¬ Obstacle s draws kind ((w.pool kind).retireAll ids clock) n asked := by
  intro obstacle
  cases obstacle with
  | taken i since before used =>
    have known := Pool.mem_known.2 used
    rw [Pool.shelf_retireAll, ← World.stock_eq] at known
    exact h.unused i before known
  | twice j i since later before same => exact h.distinct i before j later same
  | small paired below => exact absurd (h.large paired) (Nat.not_le.2 below)
  | noPair paired i since before e fails =>
    obtain ⟨material, drawn⟩ := h.pairs paired i before
    cases fails.symm.trans drawn

namespace Maintained

variable {gone new : List (StoredKey kind.Material)} {retired created : Except Error Nat}
  {key : StoredKey kind.Material} {id : Uuid}

section

variable (h : Maintained s now plan draws clock n m kind (w.pool kind) (after.pool kind) gone new retired
  created)

include h

/-- A key that was there is there still, and as it was, unless it was retired. -/
theorem read?_old (found : (w.pool kind).read? id = some key) : (after.pool kind).read? id
    = some (if id ∈ w.stock.gone after.stock kind then key.retire clock else key) := by
  have usable : id ∈ gone.map (·.id) → key.isUsable = true := by
    intro mem
    have fit := h.gone_subset (List.mem_toFinset.2 mem)
    rw [← decide_eq_true_iff (p := id ∈ _), ← Pool.hasUsable_eq, Pool.hasUsable, found] at fit
    exact fit
  have kept := Pool.read?_retireAll found (gone.map (·.id)) clock
  obtain ⟨result, filling, -⟩ := h.refill
  obtain ⟨inside, same⟩ := Pool.mem_of_read? kept
  have later := Pool.read?_of_mem (filling.keys.mem_iff.2 (List.mem_append_right new inside))
  rw [same] at later
  rw [later, h.gone_eq]
  simp only [and_iff_left_of_imp usable, List.mem_toFinset]

/-- A key that was added has just been created. -/
theorem read?_added (isNew : id ∈ w.stock.added after.stock kind) :
    ∃ key, (after.pool kind).read? id = some key ∧ key.isUsable = true ∧ key.createdAt = clock := by
  rw [h.added_eq] at isNew
  obtain ⟨key, mem, rfl⟩ := List.mem_map.1 (List.mem_toFinset.1 isNew)
  obtain ⟨result, filling, -⟩ := h.refill
  obtain ⟨fit, time, -⟩ := filling.made key mem
  exact ⟨key, Pool.read?_of_mem (filling.keys.mem_iff.2 (List.mem_append_left _ mem)), fit, time⟩

theorem count_eq : after.stock.count kind
    = ((w.stock kind).usable \ w.stock.gone after.stock kind).card + new.length := by
  obtain ⟨result, filling, -⟩ := h.refill
  rw [Stock.count, World.stock_eq, filling.card_usable, Pool.shelf_retireAll, h.gone_eq,
    World.stock_eq]

end

end Maintained

/-- If both limits are in range, no call is planned to fail and what is drawn is good for the pools
    in which keys are missing after the retirement, a pass reports no error and changes nothing but
    the two pools. In either pool,
    - the usable keys that are retired are those that are older than the limit and have fewer than
      `scanLimit` newer usable keys above them;
    - every other key stays as it is, and a retired one bears the time of the wall clock from then
      on;
    - as many keys are created as are missing to the target, all of them usable and with the time of
      the wall clock;
    - the counts of the report are the numbers of these keys. -/
theorem replenishes_exactly (s : RotationSettings) (now : Instant) (limit : PoolKind → Instant)
    (inside : ∀ kind, cutoff now (maxAge s kind) = .ok (limit kind)) (draws : Nat → Draw)
    (w : World) :
    let (report, asked, after) := (pass s now).run (World.planned (fun _ => none) draws) (0, w)
    (∀ kind, ((w.pool kind).pruned (limit kind) w.clock).shelf.usable.card < target s kind →
        DrawsWell s draws asked w kind) →
      report.errors = [] ∧ after.clock = w.clock ∧ after.ledger = w.ledger ∧ ∀ kind,
        let gone := w.stock.gone after.stock kind
        let added := w.stock.added after.stock kind
        (∀ id, id ∈ gone ↔ ∃ key ∈ (w.pool kind).keys, key.id = id ∧ key.isUsable = true
          ∧ key.createdAt < limit kind ∧ ((w.pool kind).newer key).length < scanLimit)
        ∧ (∀ id key, (w.pool kind).read? id = some key →
          (after.pool kind).read? id = some (if id ∈ gone then key.retire w.clock else key))
        ∧ added.card = target s kind - ((w.stock kind).usable \ gone).card
        ∧ target s kind ≤ after.stock.count kind
        ∧ (∀ id ∈ added, ∃ key, (after.pool kind).read? id = some key ∧ key.isUsable = true
          ∧ key.createdAt = w.clock)
        ∧ report.count (.retire kind) = gone.card ∧ report.count (.refill kind) = added.card := by
  obtain ⟨report, asked, after, ran, clock, ledger, calm⟩ :=
    exists_maintained_of_calm s now limit inside draws w
  rw [ran]
  intro well
  obtain ⟨success, tended⟩ := calm fun kind missing => (well kind missing).clear _
  refine ⟨success, clock, ledger, fun kind => ?_⟩
  obtain ⟨new, tended, size⟩ := tended kind
  have left : ((w.pool kind).pruned (limit kind) w.clock).shelf.usable
      = (w.stock kind).usable \ w.stock.gone after.stock kind := by
    rw [Pool.pruned, Pool.shelf_retireAll, tended.gone_eq, World.stock_eq]
  refine ⟨fun id => ?_, fun id key => tended.read?_old, ?_, ?_, fun id => tended.read?_added,
    tended.retired_eq, tended.created_eq⟩
  · rw [tended.gone_eq, List.mem_toFinset, List.mem_map]
    refine exists_congr fun key => ?_
    rw [Pool.mem_aged_iff]
    tauto
  · rw [tended.card_added, size, left]
  · rw [tended.count_eq, size, left]
    omega

/-- An old signing key, a new one, and no encryption key: the old key is retired, two signing keys are
    created to make three, and an encryption key is created. -/
theorem replenishes_two_keys :
    let s : RotationSettings := {}
    let w : World := ⟨⟨1700000000, 0⟩, ⟨[usableKey 1 1600000000, usableKey 2 1700000000], by decide⟩,
      .empty, .empty⟩
    let draws : Nat → Draw := fun i =>
      ⟨.ofNat (10 + i), [], fun _ => .ok ⟨"public", "private", "AQAB", "AQAB"⟩⟩
    let (report, asked, after) := (pass s w.clock).run (World.planned (fun _ => none) draws) (0, w)
    (∀ kind, ∃ limit, cutoff w.clock (maxAge s kind) = .ok limit)
      ∧ (∀ kind, DrawsWell s draws asked w kind)
      ∧ report = ⟨1, 2, 0, 1, []⟩ ∧ 3 ≤ after.stock.count .signing
      ∧ after.signing.read? (.ofNat 1) = some ((usableKey 1 1600000000).retire w.clock)
      ∧ after.signing.read? (.ofNat 2) = some (usableKey 2 1700000000) := by
  intro s w draws
  have inside : ∀ kind,
      cutoff w.clock (maxAge s kind) = .ok (w.clock.daysBefore (maxAge s kind)) :=
    cutoff_default
  have exactly := replenishes_exactly s w.clock _ inside draws w
  have reported : ((pass s w.clock).run (World.planned (fun _ => none) draws) (0, w)).1
      = ⟨1, 2, 0, 1, []⟩ := by decide
  have requests : ((pass s w.clock).run (World.planned (fun _ => none) draws) (0, w)).2.1 = 15 := by
    decide
  generalize (pass s w.clock).run (World.planned (fun _ => none) draws) (0, w) = ran
    at exactly reported requests ⊢
  obtain ⟨report, asked, after⟩ := ran
  obtain rfl : report = _ := reported
  obtain rfl : asked = 15 := requests
  have well : ∀ kind, DrawsWell s draws 15 w kind := by
    intro kind
    refine ⟨fun i before => ?_, by decide, fun _ => by decide, fun _ i before => ⟨_, rfl⟩⟩
    revert i
    cases kind <;> decide
  obtain ⟨-, -, -, pools⟩ := exactly fun kind _ => well kind
  obtain ⟨gone, kept, -, enough, -⟩ := pools .signing
  have old := (gone (.ofNat 1)).2
    ⟨usableKey 1 1600000000, List.mem_cons_self .., rfl, rfl, by decide, by decide⟩
  have new : (.ofNat 2 : Uuid) ∉ w.stock.gone after.stock .signing := by
    intro mem
    obtain ⟨key, inside, same, -, past, -⟩ := (gone (.ofNat 2)).1 mem
    have this : w.signing.read? (.ofNat 2) = some key := same ▸ Pool.read?_of_mem inside
    obtain rfl : usableKey 2 1700000000 = key := Option.some.inj this
    exact absurd past (by decide)
  refine ⟨fun kind => ⟨_, inside kind⟩, well, rfl, enough, ?_, ?_⟩
  · rw [show after.signing.read? _ = _ from kept (.ofNat 1) _ rfl, if_pos old]
  · rw [show after.signing.read? _ = _ from kept (.ofNat 2) _ rfl, if_neg new]

end Maintenance

end Latchkey

import Latchkey.Proofs.Key.Keeping
import Latchkey.Proofs.Session.Call
import Mathlib.Data.Finset.Card
import Mathlib.Data.Finset.Insert

set_option autoImplicit false

/-! # What the pools have in stock

Of a pool, maintenance only needs to know which keys there are and which of them are usable. What a
call does to these two sets and what it answers is said once here, for either pool
(`Pool.occurs_answer`), and then for whatever the world is asked (`World.occurs_respond`). -/

namespace Latchkey

/-! ## One pool -/

instance {μ : Type} (a b : StoredKey μ) : Decidable (a.older b) :=
  inferInstanceAs (Decidable (_ < _))

/-- The identifiers of all keys of a pool, and those of its usable keys. -/
structure Shelf where
  known : Finset Uuid
  usable : Finset Uuid

/-- The keys that are not usable. -/
def Shelf.retired (shelf : Shelf) : Finset Uuid :=
  shelf.known \ shelf.usable

namespace Pool

variable {μ : Type} {pool later : Pool μ} {key : StoredKey μ} {id : Uuid}

/-- What a pool has in stock. -/
def shelf (pool : Pool μ) : Shelf where
  known := (pool.keys.map (·.id)).toFinset
  usable := ((pool.keys.filter StoredKey.isUsable).map (·.id)).toFinset

theorem mem_known : id ∈ pool.shelf.known ↔ ∃ key ∈ pool.keys, key.id = id := by
  simp [shelf]

theorem mem_usable :
    id ∈ pool.shelf.usable ↔ ∃ key ∈ pool.keys, key.isUsable = true ∧ key.id = id := by
  simp [shelf, and_assoc]

theorem usable_subset (pool : Pool μ) : pool.shelf.usable ⊆ pool.shelf.known := by
  intro id mem
  obtain ⟨key, inside, -, same⟩ := mem_usable.1 mem
  exact mem_known.2 ⟨key, inside, same⟩

theorem nodup_ids (pool : Pool μ) : (pool.keys.map (·.id)).Nodup := by
  refine List.pairwise_map.2 (pool.ordered.imp fun older same => ?_)
  rw [StoredKey.older, same] at older
  exact Nat.lt_irrefl _ older

theorem card_usable (pool : Pool μ) :
    pool.shelf.usable.card = (pool.keys.filter StoredKey.isUsable).length := by
  rw [shelf, List.toFinset_card_of_nodup, List.length_map]
  exact pool.nodup_ids.sublist (List.filter_sublist.map _)

theorem card_known (pool : Pool μ) : pool.shelf.known.card = pool.keys.length := by
  rw [shelf, List.toFinset_card_of_nodup pool.nodup_ids, List.length_map]

theorem length_recentUsable (pool : Pool μ) (limit : Nat) :
    (pool.recentUsable limit).length = min limit pool.shelf.usable.card := by
  rw [recentUsable, List.length_take, card_usable, List.filter_reverse, List.length_reverse]

/-- A usable key of a pool is the key of its identifier. -/
theorem hasUsable_eq (pool : Pool μ) (id : Uuid) :
    pool.hasUsable id = decide (id ∈ pool.shelf.usable) := by
  unfold hasUsable
  cases found : pool.read? id with
  | none =>
    have unusable : id ∉ pool.shelf.usable := fun mem => by
      obtain ⟨key, inside, -, same⟩ := mem_usable.1 mem
      exact read?_eq_none_iff.1 found key inside same
    simp [unusable]
  | some key =>
    obtain ⟨inside, same⟩ := mem_of_read? found
    rw [Bool.eq_iff_iff, decide_eq_true_iff, mem_usable]
    constructor
    · intro fit
      exact ⟨key, inside, fit, same⟩
    · rintro ⟨other, inside', fit, same'⟩
      have found' := read?_of_mem inside'
      rw [same', found] at found'
      rwa [Option.some.inj found']

theorem isUsable_retireIf {time : Instant} (key : StoredKey μ) :
    (retireIf id time key).isUsable = (key.isUsable && key.id ≠ id) := by
  unfold retireIf
  cases fit : key.isUsable with
  | false => simp [fit]
  | true =>
    by_cases same : key.id = id
    · simp [same, StoredKey.retire, StoredKey.isUsable]
    · simp [same, fit]

theorem shelf_retire (pool : Pool μ) (id : Uuid) (time : Instant) :
    (pool.retire id time).shelf = ⟨pool.shelf.known, pool.shelf.usable.erase id⟩ := by
  rw [Shelf.mk.injEq]
  constructor
  · ext x
    simp only [mem_known, mem_retire, exists_exists_and_eq_and, id_retireIf]
  · ext x
    simp only [mem_usable, mem_retire, exists_exists_and_eq_and, id_retireIf, isUsable_retireIf,
      Finset.mem_erase, Bool.and_eq_true, decide_eq_true_eq]
    constructor
    · rintro ⟨key, inside, ⟨fit, other⟩, rfl⟩
      exact ⟨other, key, inside, fit, rfl⟩
    · rintro ⟨other, key, inside, fit, rfl⟩
      exact ⟨key, inside, ⟨fit, other⟩, rfl⟩

theorem shelf_of_insert? (inserted : pool.insert? key = some later) (fit : key.isUsable = true) :
    key.id ∉ pool.shelf.known
      ∧ later.shelf = ⟨insert key.id pool.shelf.known, insert key.id pool.shelf.usable⟩ := by
  have fresh : key.id ∉ pool.shelf.known := by
    unfold insert? at inserted
    split at inserted
    · rename_i fresh
      exact fun mem => by
        obtain ⟨other, inside, same⟩ := mem_known.1 mem
        exact fresh other inside same
    · simp at inserted
  refine ⟨fresh, ?_⟩
  rw [Shelf.mk.injEq]
  constructor
  · ext x
    simp only [mem_known, mem_of_insert? inserted, or_and_right, exists_or, exists_eq_left,
      Finset.mem_insert, eq_comm (a := x)]
  · ext x
    simp only [mem_usable, mem_of_insert? inserted, or_and_right, exists_or, exists_eq_left,
      Finset.mem_insert, fit, true_and, eq_comm (a := x)]

end Pool

/-! ## Requests -/

/-- The two pools. -/
inductive PoolKind
  | signing
  | encryption
deriving DecidableEq

/-- What the stock has to do with a request and its answer. -/
inductive Effect
  /-- Nothing. -/
  | quiet
  /-- The request failed. -/
  | failed
  /-- So many usable keys were listed of at most so many. -/
  | listed (kind : PoolKind) (limit found : Nat)
  /-- A key was to be retired, and was usable or not. -/
  | retired (kind : PoolKind) (id : Uuid) (was : Bool)
  | created (kind : PoolKind) (id : Uuid)
  /-- The refill lock was taken. -/
  | locked
  /-- The refill lock was given back. -/
  | unlocked
deriving DecidableEq

/-- The effect of a call to a pool. -/
def KeyCall.effect {μ : Type} (kind : PoolKind) (call : KeyCall μ) : Except Error call.Answer → Effect
  | .error _ => .failed
  | .ok answer =>
    match call, answer with
    | .create _, key => .created kind key.id
    | .retire id, was => .retired kind id was
    | .recentUsable limit, keys => .listed kind limit keys.length
    | .read _, _ => .quiet

/-- The effect of a request. -/
def Request.effect : (request : Request) → request.Answer → Effect
  | .signing call, answer => call.effect .signing answer
  | .encryption call, answer => call.effect .encryption answer
  | .ledger _, .error _ | .drawKeyPair _, .error _ => .failed
  | .ledger _, .ok _ | .drawKeyPair _, .ok _ | .drawSeed, _ => .quiet
  | .lockRefill, _ => .locked
  | .unlockRefill, _ => .unlocked

/-! ## Both pools -/

/-- What both pools have in stock. -/
abbrev Stock := PoolKind → Shelf

namespace Stock

variable {stock : Stock} {kind other : PoolKind} {id : Uuid}

/-- How many keys of a pool are usable. -/
def count (stock : Stock) (kind : PoolKind) : Nat :=
  (stock kind).usable.card

/-- The stock in which a key is not usable. -/
def retire (stock : Stock) (kind : PoolKind) (id : Uuid) : Stock :=
  Function.update stock kind ⟨(stock kind).known, (stock kind).usable.erase id⟩

/-- The stock in which there is a usable key more. -/
def create (stock : Stock) (kind : PoolKind) (id : Uuid) : Stock :=
  Function.update stock kind ⟨insert id (stock kind).known, insert id (stock kind).usable⟩

theorem known_retire (stock : Stock) (kind : PoolKind) (id : Uuid) (other : PoolKind) :
    (stock.retire kind id other).known = (stock other).known := by
  by_cases same : other = kind
  · subst same
    simp [retire]
  · simp [retire, same]

theorem count_retire_le (stock : Stock) (kind : PoolKind) (id : Uuid) (other : PoolKind) :
    (stock.retire kind id).count other ≤ stock.count other := by
  by_cases same : other = kind
  · subst same
    simpa [retire, count] using Finset.card_erase_le
  · simp [retire, count, same]

theorem count_create (unusable : id ∉ (stock kind).usable) :
    (stock.create kind id).count kind = stock.count kind + 1 := by
  simp [create, count, unusable]

theorem count_le_create (stock : Stock) (kind : PoolKind) (id : Uuid) (other : PoolKind) :
    stock.count other ≤ (stock.create kind id).count other := by
  by_cases same : other = kind
  · subst same
    simpa [create, count] using Finset.card_le_card (Finset.subset_insert id _)
  · simp [create, count, same]

theorem retire_of_ne (different : other ≠ kind) : stock.retire kind id other = stock other :=
  Function.update_of_ne different _ _

theorem create_of_ne (different : other ≠ kind) : stock.create kind id other = stock other :=
  Function.update_of_ne different _ _

/-- The keys of a pool that are usable in one stock, and retired in another. -/
def gone (before later : Stock) (kind : PoolKind) : Finset Uuid :=
  (before kind).usable ∩ (later kind).retired

theorem gone_of_eq {later : Stock} (same : later kind = stock kind) : stock.gone later kind = ∅ := by
  rw [gone, same, Shelf.retired, Finset.inter_sdiff_self]

theorem gone_retire (inside : id ∈ (stock kind).usable → id ∈ (stock kind).known) :
    stock.gone (stock.retire kind id) kind = if id ∈ (stock kind).usable then {id} else ∅ := by
  ext x
  by_cases same : x = id
  · subst same
    by_cases fit : x ∈ (stock kind).usable
    · simp [gone, retire, Shelf.retired, fit, inside fit]
    · simp [gone, fit]
  · have stays : x ∉ (if id ∈ (stock kind).usable then {id} else ∅ : Finset Uuid) := by
      split <;> simp [same]
    simp +contextual [gone, retire, Shelf.retired, same, stays]

theorem gone_create (stock : Stock) (kind : PoolKind) (id : Uuid) :
    stock.gone (stock.create kind id) kind = ∅ := by
  ext x
  simp only [gone, create, Shelf.retired, Function.update_self, Finset.mem_inter, Finset.mem_sdiff,
    Finset.mem_insert, not_or, Finset.notMem_empty, iff_false]
  tauto

/-- How the stock can go along with an effect. -/
inductive Occurs : Stock → Effect → Stock → Prop
  | quiet (stock : Stock) : Occurs stock .quiet stock
  | locked (stock : Stock) : Occurs stock .locked stock
  | unlocked (stock : Stock) : Occurs stock .unlocked stock
  | listed (stock : Stock) (kind : PoolKind) (limit : Nat) :
    Occurs stock (.listed kind limit (min limit (stock.count kind))) stock
  | retired (stock : Stock) (kind : PoolKind) (id : Uuid) :
    Occurs stock (.retired kind id (decide (id ∈ (stock kind).usable))) (stock.retire kind id)
  | created (stock : Stock) (kind : PoolKind) (id : Uuid) (fresh : id ∉ (stock kind).known) :
    Occurs stock (.created kind id) (stock.create kind id)

/-- A key that is retired remains so. -/
theorem Occurs.retired_subset {before later : Stock} {e : Effect} (h : before.Occurs e later)
    (other : PoolKind) : (before other).retired ⊆ (later other).retired := by
  cases h with
  | retired kind id =>
    by_cases same : other = kind
    · subst same
      simpa [retire, Shelf.retired] using Finset.sdiff_subset_sdiff (Finset.Subset.refl _)
        (Finset.erase_subset id _)
    · rw [retire_of_ne same]
  | created kind id fresh =>
    by_cases same : other = kind
    · subst same
      intro x mem
      obtain ⟨known, unusable⟩ := Finset.mem_sdiff.1 mem
      have different : x ≠ id := fun same => fresh (same ▸ known)
      simp [create, Shelf.retired, known, unusable, different]
    · rw [create_of_ne same]
  | _ => exact Finset.Subset.refl _

end Stock

/-! ## What the world answers -/

/-- What a world has in stock. -/
def World.stock (w : World) : Stock
  | .signing => w.signing.shelf
  | .encryption => w.encryption.shelf

theorem World.stock_signing (w : World) (pool : Pool SigningMaterial) :
    { w with signing := pool }.stock = Function.update w.stock .signing pool.shelf := by
  funext kind
  cases kind <;> rfl

theorem World.stock_encryption (w : World) (pool : Pool EncryptionMaterial) :
    { w with encryption := pool }.stock = Function.update w.stock .encryption pool.shelf := by
  funext kind
  cases kind <;> rfl

/-- What a pool answers to a call goes along with what it has in stock then, unless the call
    fails. -/
theorem Pool.occurs_answer {μ : Type} (noun : String) (clock : Instant) (freshId : Uuid)
    (pool : Pool μ) (call : KeyCall μ) {stock : Stock} {kind : PoolKind}
    (shelf : stock kind = pool.shelf)
    (calm : call.effect kind (pool.answer noun clock freshId call).1 ≠ .failed) :
    stock.Occurs (call.effect kind (pool.answer noun clock freshId call).1)
      (Function.update stock kind (pool.answer noun clock freshId call).2.shelf) := by
  cases call with
  | create material =>
    simp only [answer, add] at calm ⊢
    cases inserted : pool.insert? ⟨freshId, material, clock, none⟩ with
    | none =>
      rw [inserted] at calm
      exact absurd rfl calm
    | some later =>
      obtain ⟨fresh, same⟩ := shelf_of_insert? inserted rfl
      rw [← shelf] at fresh same
      dsimp only
      rw [same]
      exact .created stock kind freshId fresh
  | retire id =>
    simp only [answer, KeyCall.effect]
    rw [shelf_retire, hasUsable_eq, ← shelf]
    exact .retired stock kind id
  | recentUsable limit =>
    simp only [answer, KeyCall.effect]
    rw [length_recentUsable, ← shelf, Function.update_eq_self]
    exact .listed stock kind limit
  | read id =>
    simp only [answer, KeyCall.effect]
    rw [← shelf, Function.update_eq_self]
    exact .quiet stock

/-- What the world answers to a request goes along with what it has in stock then, unless the
    request fails. -/
theorem World.occurs_respond (w : World) (fault : Option Error) (draw : Draw) (request : Request)
    (calm : request.effect (w.respond fault draw request).1 ≠ .failed) :
    w.stock.Occurs (request.effect (w.respond fault draw request).1)
      (w.respond fault draw request).2.stock := by
  cases request with
  | signing call =>
    cases fault with
    | some error => exact absurd rfl calm
    | none =>
      simp only [respond, answer, stock_signing]
      exact Pool.occurs_answer _ _ _ w.signing call rfl calm
  | encryption call =>
    cases fault with
    | some error => exact absurd rfl calm
    | none =>
      simp only [respond, answer, stock_encryption]
      exact Pool.occurs_answer _ _ _ w.encryption call rfl calm
  | ledger call =>
    rw [respond_ledger] at calm ⊢
    cases answered : (w.ledger.respond fault call).1 with
    | error e =>
      rw [answered] at calm
      exact absurd rfl calm
    | ok value => exact .quiet _
  | drawKeyPair bits =>
    have same : w.respond fault draw (.drawKeyPair bits) = (draw.keyPair bits, w) := by
      cases fault <;> rfl
    rw [same] at calm ⊢
    cases drawn : draw.keyPair bits with
    | error e =>
      rw [drawn] at calm
      exact absurd rfl calm
    | ok material => exact .quiet _
  | drawSeed => cases fault <;> exact .quiet _
  | lockRefill => cases fault <;> exact .locked _
  | unlockRefill => cases fault <;> exact .unlocked _

end Latchkey

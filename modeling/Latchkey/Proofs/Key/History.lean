import Latchkey.Proofs.Key.Stock

set_option autoImplicit false

/-! # The pools keep history

Both pools in memory take prepared keys, new material, retirements, listings and lookups, in any
order; the encryption pool also refuses updates. The main theorem (`World.keeps_history`) says what
becomes of a key over any such sequence: it stays as it was stored, but for the one retirement that
found it usable, whose time it carries from then on. -/

namespace Latchkey

/-! ## The later life of a key -/

/-- What a key may have become while it was retired at `times`: all its fields stay, and the time of
    its retirement, if it has one, is followed by none of `times`. -/
structure StoredKey.Lasts {μ : Type} (key : StoredKey μ) (times : List Instant)
    (later : StoredKey μ) : Prop where
  id : later.id = key.id
  material : later.material = key.material
  createdAt : later.createdAt = key.createdAt
  deletedAt : later.deletedAt.toList = key.deletedAt.toList ++ times

namespace StoredKey.Lasts

variable {μ : Type} {key later last : StoredKey μ} {times times' : List Instant}

theorem refl (key : StoredKey μ) : key.Lasts [] key :=
  ⟨rfl, rfl, rfl, (List.append_nil _).symm⟩

theorem retire (usable : key.isUsable = true) (time : Instant) :
    key.Lasts [time] (key.retire time) := by
  have none : key.deletedAt = none := Option.isNone_iff_eq_none.1 usable
  exact ⟨rfl, rfl, rfl, by rw [none]; rfl⟩

theorem trans (h : key.Lasts times later) (h' : later.Lasts times' last) :
    key.Lasts (times ++ times') last where
  id := h'.id.trans h.id
  material := h'.material.trans h.material
  createdAt := h'.createdAt.trans h.createdAt
  deletedAt := by rw [h'.deletedAt, h.deletedAt, List.append_assoc]

/-- A key is retired at most once. -/
theorem length_le_one (h : key.Lasts times later) : times.length ≤ 1 := by
  have total := congrArg List.length h.deletedAt
  rw [List.length_append] at total
  have one : later.deletedAt.toList.length ≤ 1 := by cases later.deletedAt <;> simp
  omega

end StoredKey.Lasts

/-! ## One pool -/

/-- The time of a call, if the call retired a key. -/
def KeyCall.retiredAt? {μ : Type} (id : Uuid) (clock : Instant) :
    (call : KeyCall μ) → Except Error call.Answer → Option Instant
  | .retire other, .ok true => if other = id then some clock else none
  | _, _ => none

namespace Pool

variable {μ : Type} {pool later : Pool μ} {key new : StoredKey μ} {id : Uuid}

theorem read?_of_insert? (inserted : pool.insert? new = some later)
    (found : pool.read? id = some key) : later.read? id = some key := by
  obtain ⟨inside, rfl⟩ := mem_of_read? found
  exact read?_of_mem ((mem_of_insert? inserted key).2 (.inr inside))

/-- A key is added only under an identifier that no other key has, and as it is. -/
theorem read?_new (inserted : pool.insert? new = some later) :
    pool.read? new.id = none ∧ later.read? new.id = some new := by
  refine ⟨?_, read?_of_mem ((mem_of_insert? inserted new).2 (.inl rfl))⟩
  unfold insert? at inserted
  split at inserted
  · rename_i fresh
    exact read?_eq_none_iff.2 fresh
  · simp at inserted

theorem read?_retire (found : pool.read? id = some key) (other : Uuid) (time : Instant) :
    (pool.retire other time).read? id = some (retireIf other time key) := by
  obtain ⟨inside, rfl⟩ := mem_of_read? found
  rw [← id_retireIf other time key]
  exact read?_of_mem (mem_retire.2 ⟨key, inside, rfl⟩)

/-- What a retirement makes of a key, by whether it was answered with true. -/
theorem lasts_retire (found : pool.read? id = some key) (other : Uuid) (time : Instant) :
    key.Lasts ((KeyCall.retire other : KeyCall μ).retiredAt? id time
      (.ok (pool.hasUsable other))).toList (retireIf other time key) := by
  obtain ⟨-, rfl⟩ := mem_of_read? found
  by_cases same : other = key.id
  · subst same
    have usable : pool.hasUsable key.id = key.isUsable := by rw [hasUsable, found]
    rw [usable]
    cases fit : key.isUsable with
    | true => simpa [KeyCall.retiredAt?, retireIf, fit] using StoredKey.Lasts.retire fit time
    | false => simpa [KeyCall.retiredAt?, retireIf, fit] using StoredKey.Lasts.refl key
  · have stays : retireIf other time key = key := if_neg fun h => same h.1.symm
    have none : (KeyCall.retire other : KeyCall μ).retiredAt? key.id time
        (.ok (pool.hasUsable other)) = none := by
      cases pool.hasUsable other <;> simp [KeyCall.retiredAt?, same]
    rw [stays, none]
    exact .refl key

/-- What a call makes of a key. -/
theorem lasts_answer (noun : String) (clock : Instant) (freshId : Uuid) (call : KeyCall μ)
    (found : pool.read? id = some key) :
    ∃ key', (pool.answer noun clock freshId call).2.read? id = some key'
      ∧ key.Lasts
        (call.retiredAt? id clock (pool.answer noun clock freshId call).1).toList key' := by
  cases call with
  | create material =>
    simp only [answer, add]
    cases inserted : pool.insert? ⟨freshId, material, clock, none⟩ with
    | none => exact ⟨key, found, .refl key⟩
    | some later => exact ⟨key, read?_of_insert? inserted found, .refl key⟩
  | retire other => exact ⟨_, read?_retire found other clock, lasts_retire found other clock⟩
  | recentUsable limit => exact ⟨key, found, .refl key⟩
  | read other => exact ⟨key, found, .refl key⟩

/-- A call that fails leaves the pool as it is. -/
theorem answer_of_error {noun : String} {clock : Instant} {freshId : Uuid} {call : KeyCall μ}
    {e : Error} (failed : (pool.answer noun clock freshId call).1 = .error e) :
    (pool.answer noun clock freshId call).2 = pool := by
  cases call with
  | create material =>
    simp only [answer] at failed ⊢
    cases added : pool.add noun ⟨freshId, material, clock, none⟩ with
    | ok later => simp [added] at failed
    | error e => rfl
  | _ => simp [answer] at failed

/-- New material is stored under the identifier that was drawn, with the time of the call. -/
theorem read?_created {noun : String} {clock : Instant} {freshId : Uuid} {material : μ}
    (created : (pool.answer noun clock freshId (.create material)).1 = .ok key) :
    key = ⟨freshId, material, clock, none⟩ ∧ pool.read? key.id = none
      ∧ (pool.answer noun clock freshId (.create material)).2.read? key.id = some key := by
  simp only [answer, add] at created ⊢
  cases inserted : pool.insert? ⟨freshId, material, clock, none⟩ with
  | none => simp [inserted] at created
  | some later =>
    rw [inserted] at created
    obtain rfl := Except.ok.inj created
    exact ⟨rfl, read?_new inserted⟩

end Pool

/-! ## Both pools -/

/-- What the keys of a pool are made of. -/
abbrev PoolKind.Material : PoolKind → Type
  | .signing => SigningMaterial
  | .encryption => EncryptionMaterial

/-- What the pools are asked. -/
inductive PoolCall
  /-- Stores a prepared key as it is. -/
  | insert (kind : PoolKind) (key : StoredKey kind.Material)
  | ask (kind : PoolKind) (call : KeyCall kind.Material)
  /-- Replaces an encryption key. -/
  | update (key : EncryptionKey)

/-- What the pools answer. -/
abbrev PoolCall.Answer : PoolCall → Type
  | .insert _ _ => Unit
  | .ask _ call => call.Answer
  | .update _ => EncryptionKey

/-- The time of a call, if the call retired a key. -/
def PoolCall.retiredAt? (kind : PoolKind) (id : Uuid) (clock : Instant) :
    (call : PoolCall) → Except Error call.Answer → Option Instant
  | .ask other call, answer => if other = kind then call.retiredAt? id clock answer else none
  | _, _ => none

/-- A call with the time at which it is made and what may be drawn for it. -/
structure PoolVisit where
  call : PoolCall
  clock : Instant
  draw : Draw

namespace World

variable {w : World} {kind : PoolKind} {id : Uuid}

/-- A pool of the world. -/
def pool (w : World) : (kind : PoolKind) → Pool kind.Material
  | .signing => w.signing
  | .encryption => w.encryption

/-- The world with one more key. -/
def insertKey : (kind : PoolKind) → StoredKey kind.Material → World → Except Error World
  | .signing => insertSigning
  | .encryption => insertEncryption

/-- What the pools answer to a call, and the world after it. -/
def serve (w : World) : (visit : PoolVisit) → Except Error visit.call.Answer × World
  | ⟨.insert kind key, _, _⟩ =>
    match w.insertKey kind key with
    | .ok w' => (.ok (), w')
    | .error e => (.error e, w)
  | ⟨.ask .signing call, clock, draw⟩ => answer draw (.signing call) { w with clock := clock }
  | ⟨.ask .encryption call, clock, draw⟩ =>
    answer draw (.encryption call) { w with clock := clock }
  | ⟨.update key, clock, draw⟩ =>
    (Operation.updateEncryption key.id).run.run (answer draw) { w with clock := clock }

/-- The world after calls, one after the other. -/
def visited (w : World) (visits : List PoolVisit) : World :=
  visits.foldl (fun w visit => (w.serve visit).2) w

/-- The times of the calls that retired a key of a pool. -/
def retirements (kind : PoolKind) (id : Uuid) : World → List PoolVisit → List Instant
  | _, [] => []
  | w, visit :: rest =>
    (visit.call.retiredAt? kind id visit.clock (w.serve visit).1).toList
      ++ retirements kind id (w.serve visit).2 rest

theorem visited_append (w : World) (pre post : List PoolVisit) :
    w.visited (pre ++ post) = (w.visited pre).visited post :=
  List.foldl_append

/-! ## One call -/

/-- A key is inserted into its own pool only. -/
theorem insertKey_eq (kind : PoolKind) (key : StoredKey kind.Material) (w : World) :
    (∃ e, w.insertKey kind key = .error e)
      ∨ ∃ w' later, w.insertKey kind key = .ok w' ∧ (w.pool kind).insert? key = some later
        ∧ w'.pool kind = later ∧ ∀ other, other ≠ kind → w'.pool other = w.pool other := by
  cases kind with
  | signing =>
    simp only [insertKey, insertSigning, Pool.add]
    cases inserted : w.signing.insert? key with
    | none => exact .inl ⟨_, rfl⟩
    | some later =>
      refine .inr ⟨_, later, rfl, inserted, rfl, fun other different => ?_⟩
      cases other with
      | signing => exact absurd rfl different
      | encryption => rfl
  | encryption =>
    simp only [insertKey, insertEncryption, Pool.add]
    cases inserted : w.encryption.insert? key with
    | none => exact .inl ⟨_, rfl⟩
    | some later =>
      refine .inr ⟨_, later, rfl, inserted, rfl, fun other different => ?_⟩
      cases other with
      | signing => rfl
      | encryption => exact absurd rfl different

/-- A pool is asked alone, at the time of the call. -/
theorem serve_ask (w : World) (kind : PoolKind) (call : KeyCall kind.Material) (clock : Instant)
    (draw : Draw) : ∃ noun,
      (w.serve ⟨.ask kind call, clock, draw⟩).1
          = ((w.pool kind).answer noun clock draw.keyId call).1
        ∧ (w.serve ⟨.ask kind call, clock, draw⟩).2.pool kind
          = ((w.pool kind).answer noun clock draw.keyId call).2
        ∧ ∀ other, other ≠ kind →
          (w.serve ⟨.ask kind call, clock, draw⟩).2.pool other = w.pool other := by
  cases kind with
  | signing =>
    refine ⟨signingNoun, rfl, rfl, fun other different => ?_⟩
    cases other with
    | signing => exact absurd rfl different
    | encryption => rfl
  | encryption =>
    refine ⟨encryptionNoun, rfl, rfl, fun other different => ?_⟩
    cases other with
    | signing => rfl
    | encryption => exact absurd rfl different

/-- What a call makes of a key. -/
theorem lasts_serve {key : StoredKey kind.Material} (visit : PoolVisit)
    (found : (w.pool kind).read? id = some key) :
    ∃ later, ((w.serve visit).2.pool kind).read? id = some later
      ∧ key.Lasts (visit.call.retiredAt? kind id visit.clock (w.serve visit).1).toList later := by
  obtain ⟨call, clock, draw⟩ := visit
  cases call with
  | insert other new =>
    refine ⟨key, ?_, .refl key⟩
    simp only [serve]
    rcases insertKey_eq other new w with ⟨e, failed⟩ | ⟨w', later, done, inserted, same, others⟩
    · simp only [failed, found]
    · simp only [done]
      by_cases this : kind = other
      · subst this
        rw [same]
        exact Pool.read?_of_insert? inserted found
      · rw [others kind this, found]
  | ask other call =>
    obtain ⟨noun, answered, same, others⟩ := w.serve_ask other call clock draw
    -- A call to the other pool retires no key of this one.
    by_cases this : other = kind
    · subst this
      rw [same, answered]
      simpa only [PoolCall.retiredAt?, if_true] using
        Pool.lasts_answer noun clock draw.keyId call found
    · refine ⟨key, by rw [others kind (Ne.symm this), found], ?_⟩
      rw [PoolCall.retiredAt?, if_neg this]
      exact .refl key
  | update new => cases kind <;> exact ⟨key, found, .refl key⟩

/-- A call that fails leaves both pools as they are. -/
theorem pool_serve_of_error {visit : PoolVisit} {e : Error}
    (failed : (w.serve visit).1 = .error e) (kind : PoolKind) :
    (w.serve visit).2.pool kind = w.pool kind := by
  obtain ⟨call, clock, draw⟩ := visit
  cases call with
  | insert other new =>
    simp only [serve] at failed ⊢
    cases inserted : w.insertKey other new with
    | ok w' => simp [inserted] at failed
    | error e => rfl
  | ask other call =>
    obtain ⟨noun, answered, same, others⟩ := w.serve_ask other call clock draw
    by_cases this : kind = other
    · subst this
      rw [same]
      exact Pool.answer_of_error (answered.symm.trans failed)
    · exact others kind this
  | update new => cases kind <;> rfl

/-- A key that is inserted was unknown, and is stored as it is. -/
theorem read?_inserted {key : StoredKey kind.Material} {clock : Instant} {draw : Draw}
    (done : (w.serve ⟨.insert kind key, clock, draw⟩).1 = .ok ()) :
    (w.pool kind).read? key.id = none
      ∧ ((w.serve ⟨.insert kind key, clock, draw⟩).2.pool kind).read? key.id = some key := by
  simp only [serve] at done ⊢
  rcases insertKey_eq kind key w with ⟨e, failed⟩ | ⟨w', later, inserts, inserted, same, -⟩
  · simp [failed] at done
  · simp only [inserts, same]
    exact Pool.read?_new inserted

/-- A key that is created was unknown, and is stored as it was answered. -/
theorem read?_created {material : kind.Material} {key : StoredKey kind.Material} {clock : Instant}
    {draw : Draw} (done : (w.serve ⟨.ask kind (.create material), clock, draw⟩).1 = .ok key) :
    key = ⟨draw.keyId, material, clock, none⟩ ∧ (w.pool kind).read? key.id = none
      ∧ ((w.serve ⟨.ask kind (.create material), clock, draw⟩).2.pool kind).read? key.id
        = some key := by
  obtain ⟨noun, answered, same, -⟩ := w.serve_ask kind (.create material) clock draw
  rw [same]
  exact Pool.read?_created (answered.symm.trans done)

/-! ## Any number of calls -/

theorem lasts_visited {key : StoredKey kind.Material} (visits : List PoolVisit)
    (found : (w.pool kind).read? id = some key) :
    ∃ later, ((w.visited visits).pool kind).read? id = some later
      ∧ key.Lasts (w.retirements kind id visits) later := by
  induction visits generalizing w key with
  | nil => exact ⟨key, found, .refl key⟩
  | cons visit rest ih =>
    obtain ⟨next, found, once⟩ := lasts_serve visit found
    obtain ⟨last, found, rest⟩ := ih found
    exact ⟨last, found, once.trans rest⟩

/-- A key in a pool is there after any further calls, with the fields it had, but for the time of
    its retirement: that is the time of the one call that retired it in between, if there was one,
    which there was not if the key was retired before. What is inserted or created was unknown, and
    is stored as given. Updates are refused, and calls that fail leave both pools as they are. -/
theorem keeps_history (w : World) :
    (∀ (pre post : List PoolVisit) (kind : PoolKind) (id : Uuid) (key : StoredKey kind.Material),
      ((w.visited pre).pool kind).read? id = some key →
      ((w.visited pre).retirements kind id post).length ≤ 1
        ∧ ∃ later, ((w.visited (pre ++ post)).pool kind).read? id = some later
          ∧ key.Lasts ((w.visited pre).retirements kind id post) later)
    ∧ (∀ (kind : PoolKind) (key : StoredKey kind.Material) (clock : Instant) (draw : Draw),
      (w.serve ⟨.insert kind key, clock, draw⟩).1 = .ok () →
      (w.pool kind).read? key.id = none
        ∧ ((w.serve ⟨.insert kind key, clock, draw⟩).2.pool kind).read? key.id = some key)
    ∧ (∀ (kind : PoolKind) (material : kind.Material) (key : StoredKey kind.Material)
        (clock : Instant) (draw : Draw),
      (w.serve ⟨.ask kind (.create material), clock, draw⟩).1 = .ok key →
      key = ⟨draw.keyId, material, clock, none⟩ ∧ (w.pool kind).read? key.id = none
        ∧ ((w.serve ⟨.ask kind (.create material), clock, draw⟩).2.pool kind).read? key.id
          = some key)
    ∧ (∀ (key : EncryptionKey) (clock : Instant) (draw : Draw),
      (w.serve ⟨.update key, clock, draw⟩).1
        = .error (.unsupported ("update encryption key pair " ++ key.id.toText)))
    ∧ ∀ (visit : PoolVisit) (e : Error), (w.serve visit).1 = .error e →
      ∀ kind, (w.serve visit).2.pool kind = w.pool kind := by
  refine ⟨?_, fun kind key clock draw => read?_inserted,
    fun kind material key clock draw => read?_created, fun key clock draw => rfl,
    fun visit e => pool_serve_of_error⟩
  intro pre post kind id key found
  obtain ⟨later, found', lasts⟩ := lasts_visited post found
  rw [visited_append]
  exact ⟨lasts.length_le_one, later, found', lasts⟩

/-- A signing key is inserted, retired, inserted again and retired again: it keeps the time of its
    first retirement. -/
theorem keeps_first_retirement :
    let key : SigningKey := ⟨.ofNat 2, ⟨"private", "public"⟩, ⟨5, 0⟩, none⟩
    let draw : Draw := ⟨.ofNat 2, [], fun _ => .error .noUsableKey⟩
    let insert : PoolVisit := ⟨.insert .signing key, ⟨6, 0⟩, draw⟩
    let retire : Instant → PoolVisit := fun time => ⟨.ask .signing (.retire (.ofNat 2)), time, draw⟩
    let post := [retire ⟨100, 0⟩, insert, retire ⟨200, 0⟩]
    let w := World.empty ⟨0, 0⟩
    ((w.visited [insert]).pool .signing).read? (.ofNat 2) = some key
      ∧ (w.visited [insert]).retirements .signing (.ofNat 2) post = [⟨100, 0⟩]
      ∧ ∃ later, ((w.visited ([insert] ++ post)).pool .signing).read? (.ofNat 2) = some later
        ∧ later.material = key.material ∧ later.deletedAt = some ⟨100, 0⟩ := by
  intro key draw insert retire post w
  have found : ((w.visited [insert]).pool .signing).read? (.ofNat 2) = some key := rfl
  have times : (w.visited [insert]).retirements .signing (.ofNat 2) post = [⟨100, 0⟩] := rfl
  obtain ⟨-, later, found', lasts⟩ :=
    (keeps_history w).1 [insert] post .signing (.ofNat 2) key found
  rw [times] at lasts
  refine ⟨found, times, later, found', lasts.material, ?_⟩
  exact Option.toList_eq_singleton_iff.1 lasts.deletedAt

end World

end Latchkey

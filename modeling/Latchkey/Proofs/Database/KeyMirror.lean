import Latchkey.Proofs.Database.KeyTables
import Latchkey.Proofs.Database.Mirror
import Mathlib.Data.List.Infix

set_option autoImplicit false

/-! # The pools in the database do what the pools in memory do

Over a database that executes the statements about keys, both pools give the same answers to the
same calls as in memory, and keep the same keys (`KeyVisit.database_mirrors_pools`). The wording of
a failure of the store may differ. -/

namespace Latchkey

/-! ## The keys of a pool as rows -/

namespace Pool

open Database (KeyRow)

variable {μ : Type} {pool later : Pool μ} {key other : StoredKey μ} {id : Uuid}

/-- The rows of a table that holds the keys of a pool. -/
def rows (pool : Pool μ) : Multiset (KeyRow μ) :=
  (pool.keys.map KeyRow.ofKey : List (KeyRow μ))

theorem mem_rows {row : KeyRow μ} :
    row ∈ pool.rows ↔ ∃ key ∈ pool.keys, KeyRow.ofKey key = row := by
  simp [rows]

theorem rows_of_insert? (inserted : pool.insert? key = some later) :
    later.rows = .ofKey key ::ₘ pool.rows :=
  Multiset.coe_eq_coe.2 ((perm_of_insert? inserted).map _)

theorem exists_rows_iff (c : Collation) :
    (∃ row ∈ pool.rows, c.weights row.id = c.weights id.toText)
      ↔ ∃ key ∈ pool.keys, key.id = id := by
  simp [rows, c.weights_toText_eq_iff]

/-! ### Retirements -/

theorem isUsableUnder_ofKey (c : Collation) (id : Uuid) (key : StoredKey μ) :
    (KeyRow.ofKey key).isUsableUnder c id.toText = decide (key.id = id ∧ key.isUsable) := by
  simp [KeyRow.isUsableUnder, c.weights_toText_eq_iff]

/-- A row is retired as its key is. -/
theorem retireIf_ofKey (c : Collation) (id : Uuid) (time : Instant) (key : StoredKey μ) :
    (KeyRow.ofKey key).retireIf c id.toText time = .ofKey (retireIf id time key) := by
  rw [KeyRow.retireIf, isUsableUnder_ofKey, retireIf]
  by_cases usable : key.id = id ∧ key.isUsable
  · rw [if_pos (decide_eq_true usable), if_pos usable]
    rfl
  · rw [if_neg (by simpa using usable), if_neg usable]

theorem rows_retire (c : Collation) (id : Uuid) (time : Instant) :
    (pool.retire id time).rows = pool.rows.map (KeyRow.retireIf c id.toText time) := by
  have same : KeyRow.ofKey ∘ retireIf id time
      = KeyRow.retireIf c id.toText time ∘ KeyRow.ofKey (μ := μ) :=
    funext fun key => by rw [Function.comp_apply, Function.comp_apply, retireIf_ofKey]
  rw [rows, rows, retire, Multiset.map_coe, List.map_map, List.map_map, same]

/-- A row is retired if the identifier has a usable key. -/
theorem countP_isUsableUnder_pos_iff (c : Collation) :
    0 < (pool.rows.countP fun row => row.isUsableUnder c id.toText)
      ↔ pool.hasUsable id = true := by
  simp only [hasUsable_eq, decide_eq_true_iff, mem_usable, Multiset.countP_pos, rows,
    Multiset.mem_coe, List.mem_map, exists_exists_and_eq_and, isUsableUnder_ofKey]
  simp only [and_comm]

/-! ### Listings -/

/-- The usable keys, newest first. -/
def newest (pool : Pool μ) : List (StoredKey μ) :=
  pool.keys.reverse.filter StoredKey.isUsable

theorem recentUsable_eq (pool : Pool μ) (limit : Nat) :
    pool.recentUsable limit = pool.newest.take limit :=
  rfl

theorem length_newest_le (pool : Pool μ) : pool.newest.length ≤ pool.keys.length := by
  simpa [newest] using List.length_filter_le StoredKey.isUsable pool.keys.reverse

theorem mem_of_newest (mem : key ∈ pool.newest) : key ∈ pool.keys :=
  List.mem_reverse.1 (List.mem_filter.1 mem).1

theorem coe_newest (pool : Pool μ) :
    (pool.newest.map KeyRow.ofKey : Multiset (KeyRow μ))
      = pool.rows.filter fun row => row.isUsable := by
  have same : pool.newest.Perm (pool.keys.filter StoredKey.isUsable) :=
    (List.reverse_perm pool.keys).filter _
  rw [rows, Multiset.filter_coe, List.filter_map]
  refine Multiset.coe_eq_coe.2 ((same.map _).trans ?_)
  simp [Function.comp_def]

theorem pairwise_newest (c : Collation) (pool : Pool μ) :
    (pool.newest.map KeyRow.ofKey).Pairwise fun a b => c.weights b.id ≤ c.weights a.id := by
  have falling : pool.keys.reverse.Pairwise fun a b => b.older a :=
    List.pairwise_reverse.2 pool.ordered
  refine List.pairwise_map.2 ((falling.filter _).imp fun older => ?_)
  exact c.weights_toText_le_iff.2 (Nat.le_of_lt older)

/-- No two rows have the same identifier, so there is one way to list the rows in service. -/
theorem listed_eq (c : Collation) {listed : List (KeyRow μ)}
    (all : (listed : Multiset (KeyRow μ)) = pool.rows.filter fun row => row.isUsable)
    (falling : listed.Pairwise fun a b => c.weights b.id ≤ c.weights a.id) :
    listed = pool.newest.map KeyRow.ofKey := by
  have perm : listed.Perm (pool.newest.map KeyRow.ofKey) :=
    Multiset.coe_eq_coe.1 (all.trans (coe_newest pool).symm)
  refine perm.eq_of_pairwise ?_ falling (pairwise_newest c pool)
  -- Rows that compare as equal have one identifier, and so are the row of one key.
  intro a b mem mem' le le'
  obtain ⟨key, inside, rfl⟩ := List.mem_map.1 (perm.mem_iff.1 mem)
  obtain ⟨other, inside', rfl⟩ := List.mem_map.1 mem'
  have same : key.id = other.id := c.weights_toText_eq_iff.1 (le_antisymm le' le)
  exact congrArg KeyRow.ofKey (eq_of_id_eq (mem_of_newest inside) (mem_of_newest inside') same)

/-! ### Refusals -/

theorem insert?_of_taken (taken : ∃ other ∈ pool.keys, other.id = key.id) :
    pool.insert? key = none := by
  obtain ⟨other, inside, same⟩ := taken
  exact dif_neg fun fresh => fresh other inside same

end Pool

/-! ## Calls over a database -/

/-- Two results say the same: they are the same answer, or failures of the same kind. -/
def SameResult {α : Type} : Except Error α → Except Error α → Prop
  | .ok answer, .ok answer' => answer = answer'
  | .error e, .error e' => e.SameVariant e'
  | _, _ => False

theorem SameResult.eq_ok {α : Type} {result : Except Error α} {answer : α}
    (same : SameResult result (.ok answer)) : result = .ok answer := by
  cases result with
  | error e => exact same.elim
  | ok other => exact congrArg Except.ok same

namespace Database.Keys

open Database.Operation (fail)

variable {μ : Type}

/-- What a call does over a database, at an instant and with an identifier that was drawn. -/
def ask (a : Access μ) (clock : Instant) (freshId : Uuid) :
    (call : KeyCall μ) → Operation Error call.Answer
  | .create material => create a ⟨freshId, material, clock, none⟩
  | .retire id => retire a clock id
  | .recentUsable limit => recentUsable a limit
  | .read id => read a id

theorem run_create (a : Access μ) (key : StoredKey μ) :
    (create a key).run = sending (a.statement (.insert key)) (fail ("save " ++ a.table.noun))
      fun _ => .done (.ok key) :=
  Operation.run_attempt_bind ..

theorem run_retire (a : Access μ) (now : Instant) (id : Uuid) :
    (retire a now id).run
      = sending (a.statement (.retire id now)) (fail ("retire " ++ a.table.noun))
        fun answer => .done (.ok (decide (0 < answer.count))) :=
  Operation.run_attempt_bind ..

theorem run_recentUsable (a : Access μ) (limit : Nat) :
    (recentUsable a limit).run
      = sending (a.statement (.newest limit)) (fail ("list " ++ a.table.noun ++ "s"))
        fun answer => .done (answer.found.mapM (ofRow a.table)) :=
  Operation.run_attempt_bind ..

theorem run_read (a : Access μ) (id : Uuid) :
    (read a id).run = sending (a.statement (.byId id)) (fail ("read " ++ a.table.noun))
      fun answer => .done (answer.found.head?.mapM (ofRow a.table)) :=
  Operation.run_attempt_bind ..

end Database.Keys

/-- The columns can hold what a call adds: texts that fit, and times within their range, in whole
    microseconds. -/
def KeyCall.Fits {kind : PoolKind} (clock : Instant) : KeyCall kind.Material → Prop
  | .create material => kind.Fits material ∧ clock.IsDatetime ∧ clock.toMicros = clock
  | .retire _ => clock.IsDatetime ∧ clock.toMicros = clock
  | .recentUsable _ | .read _ => True

namespace Database

variable {σ : Type} {c : Collation} {db : Program.Handler Request Request.Answer σ}
  {view : σ → KeyContents} {s : σ} {kind : PoolKind} {pool : Pool kind.Material}

/-- Over a database, a call is answered as by a pool, and leaves the rows of the pool after it and
    those of the other table. -/
def MirrorsPool (db : Program.Handler Request Request.Answer σ) (view : σ → KeyContents) (s : σ)
    (pool : Pool kind.Material) (noun : String) (clock : Instant) (freshId : Uuid)
    (call : KeyCall kind.Material) : Prop :=
  SameResult ((Keys.ask kind.access clock freshId call).run.run db s).1
      (pool.answer noun clock freshId call).1
    ∧ view ((Keys.ask kind.access clock freshId call).run.run db s).2
      = Function.update (view s) kind (pool.answer noun clock freshId call).2.rows

namespace ExecutesKeys

theorem mirrors_create (h : ExecutesKeys c db view) (held : view s kind = pool.rows)
    (noun : String) {clock : Instant} (freshId : Uuid) {material : kind.Material}
    (fits : kind.Fits material) (range : clock.IsDatetime) (whole : clock.toMicros = clock) :
    MirrorsPool db view s pool noun clock freshId (.create material) := by
  simp only [MirrorsPool, Keys.ask, Keys.run_create, Pool.answer, Pool.add]
  set key : StoredKey kind.Material := ⟨freshId, material, clock, none⟩
  have same : KeyRow.inserted key = .ofKey key := KeyRow.inserted_eq_ofKey whole rfl
  have sent : (KeyRow.ofKey key).IsSentFor key := KeyRow.isSentFor_iff.2 same.symm
  -- Table and pool refuse the same identifiers, as none counts as the text of another.
  by_cases taken : ∃ other ∈ pool.keys, other.id = key.id
  · have present := (Pool.exists_rows_iff c).2 taken
    obtain ⟨_, _, s', means, left, ran⟩ := h.run_sending held (.refuses key _ .noRow _ sent present)
    rw [ran, Pool.insert?_of_taken taken]
    cases means with
    | inserts _ _ answer row sent' fresh =>
      obtain rfl := (KeyRow.isSentFor_iff.1 sent').trans same
      exact absurd present (by simpa using fresh)
    | refuses _ _ fault => exact ⟨rfl, left⟩
  · have absent : ∀ row ∈ pool.rows, c.weights row.id ≠ c.weights (KeyRow.ofKey key).id :=
      fun row mem clash => taken ((Pool.exists_rows_iff c).1 ⟨row, mem, clash⟩)
    obtain ⟨later, inserted⟩ := pool.exists_insert? _ taken
    obtain ⟨_, _, s', means, left, ran⟩ :=
      h.run_sending held (.inserts key _ (.affected 1) _ sent absent ⟨fits, range⟩)
    rw [ran, inserted]
    cases means with
    | inserts _ _ answer row sent' =>
      obtain rfl := (KeyRow.isSentFor_iff.1 sent').trans same
      exact ⟨rfl, by rw [Pool.rows_of_insert? inserted]; exact left⟩
    | refuses _ _ fault row sent' present =>
      obtain rfl := (KeyRow.isSentFor_iff.1 sent').trans same
      exact absurd present (by simpa using absent)

theorem mirrors_retire (h : ExecutesKeys c db view) (held : view s kind = pool.rows)
    (noun : String) {clock : Instant} (freshId id : Uuid) (range : clock.IsDatetime)
    (whole : clock.toMicros = clock) :
    MirrorsPool db view s pool noun clock freshId (.retire id) := by
  simp only [MirrorsPool, Keys.ask, Keys.run_retire, Pool.answer]
  obtain ⟨_, _, s', means, left, ran⟩ :=
    h.run_sending held (.retires id clock _ _ _ rfl (by rwa [whole]))
  rw [ran]
  cases means with
  | retires _ _ _ text cut sent =>
    obtain ⟨rfl, rfl⟩ := KeyStatement.eq_of_values_retire sent
    rw [whole] at left
    refine ⟨?_, by rw [Pool.rows_retire c]; exact left⟩
    simp only [Program.run, Answer.count, Pool.countP_isUsableUnder_pos_iff]
    exact Bool.decide_eq_true

theorem mirrors_recentUsable (h : ExecutesKeys c db view) (held : view s kind = pool.rows)
    (noun : String) (clock : Instant) (freshId : Uuid) (limit : Nat)
    (few : pool.keys.length ≤ KeyStatement.maxLimit) :
    MirrorsPool db view s pool noun clock freshId (.recentUsable limit) := by
  simp only [MirrorsPool, Keys.ask, Keys.run_recentUsable, Pool.answer, Pool.recentUsable_eq]
  obtain ⟨_, _, s', means, left, ran⟩ := h.run_sending held
    (.lists limit _ _ (min limit KeyStatement.maxLimit) rfl _ pool.coe_newest
      (pool.pairwise_newest c) (Row.holds_map_ofKeyRow kind _))
  rw [ran]
  cases means with
  | lists _ _ found number sent listed all falling hold =>
    obtain rfl := KeyStatement.eq_of_values_newest sent
    rw [Pool.listed_eq c all falling, ← List.map_take,
      Collation.take_min (pool.length_newest_le.trans few)] at hold
    refine ⟨?_, left⟩
    simp only [Program.run, Answer.found, Keys.mapM_ofRow hold]
    rfl

theorem mirrors_read (h : ExecutesKeys c db view) (held : view s kind = pool.rows)
    (noun : String) (clock : Instant) (freshId id : Uuid) :
    MirrorsPool db view s pool noun clock freshId (.read id) := by
  simp only [MirrorsPool, Keys.ask, Keys.run_read, Pool.answer]
  cases found : pool.read? id with
  | none =>
    have absent : ∀ row ∈ pool.rows, c.weights row.id ≠ c.weights id.toText := by
      intro row mem same
      obtain ⟨key, inside, clash⟩ := (Pool.exists_rows_iff c).1 ⟨row, mem, same⟩
      exact Pool.read?_eq_none_iff.1 found key inside clash
    obtain ⟨_, _, s', means, left, ran⟩ := h.run_sending held (.findsNothing id _ _ rfl absent)
    rw [ran]
    cases means with
    | finds _ _ cells text sent row mem same =>
      obtain rfl := KeyStatement.eq_of_values_byId sent
      exact absurd same (absent row mem)
    | findsNothing => exact ⟨rfl, left⟩
  | some key =>
    obtain ⟨inside, rfl⟩ := Pool.mem_of_read? found
    obtain ⟨_, _, s', means, left, ran⟩ := h.run_sending held
      (.finds key.id _ _ _ rfl (.ofKey key) (Pool.mem_rows.2 ⟨key, inside, rfl⟩) rfl
        (Row.holds_ofKeyRow kind _))
    rw [ran]
    cases means with
    | finds _ _ cells text sent row mem same holds =>
      obtain rfl := KeyStatement.eq_of_values_byId sent
      obtain ⟨other, inside', rfl⟩ := Pool.mem_rows.1 mem
      obtain rfl := Pool.eq_of_id_eq inside' inside (c.weights_toText_eq_iff.1 same)
      refine ⟨?_, left⟩
      simp only [Program.run, Answer.found, List.head?_cons, Option.mapM_some,
        Keys.ofRow_of_holds holds]
      rfl
    | findsNothing _ _ text sent absent =>
      obtain rfl := KeyStatement.eq_of_values_byId sent
      have mem : KeyRow.ofKey key ∈ pool.rows := Pool.mem_rows.2 ⟨key, inside, rfl⟩
      exact absurd (congrArg c.weights (KeyRow.id_ofKey key)) (absent _ mem)

/-- Of the listings it matters that no more keys are in memory than can be asked for. -/
theorem mirrors_ask (h : ExecutesKeys c db view) (held : view s kind = pool.rows) (noun : String)
    {clock : Instant} (freshId : Uuid) {call : KeyCall kind.Material} (fits : call.Fits clock)
    (few : pool.keys.length ≤ KeyStatement.maxLimit) :
    MirrorsPool db view s pool noun clock freshId call := by
  cases call with
  | create material => exact h.mirrors_create held noun freshId fits.1 fits.2.1 fits.2.2
  | retire id => exact h.mirrors_retire held noun freshId id fits.1 fits.2
  | recentUsable limit => exact h.mirrors_recentUsable held noun clock freshId limit few
  | read id => exact h.mirrors_read held noun clock freshId id

end ExecutesKeys

end Database

/-! ## Both pools -/

/-- A call to one of the pools, with the time at which it is made and what is drawn for it. -/
structure KeyVisit where
  kind : PoolKind
  call : KeyCall kind.Material
  clock : Instant
  draw : Draw

namespace KeyVisit

/-- The call as the pools in memory take it. -/
abbrev inMemory (visit : KeyVisit) : PoolVisit :=
  ⟨.ask visit.kind visit.call, visit.clock, visit.draw⟩

/-- What the call does over a database. -/
def query (visit : KeyVisit) : Database.Operation Error visit.call.Answer :=
  Database.Keys.ask visit.kind.access visit.clock visit.draw.keyId visit.call

/-- The columns can hold what the call adds. -/
def Fits (visit : KeyVisit) : Prop :=
  visit.call.Fits visit.clock

/-- A database after calls. -/
def overDatabase {σ : Type} (db : Program.Handler Database.Request Database.Request.Answer σ)
    (s : σ) (visits : List KeyVisit) : σ :=
  visits.foldl (fun s visit => (visit.query.run.run db s).2) s

end KeyVisit

namespace World

open Database (KeyContents)

variable {w : World}

/-- The rows of the two tables that hold the keys of the pools. -/
def keyRows (w : World) : KeyContents :=
  fun kind => (w.pool kind).rows

/-- The pools only grow. -/
theorem length_keys_le (w : World) (visits : List PoolVisit) (kind : PoolKind) :
    (w.pool kind).keys.length ≤ ((w.visited visits).pool kind).keys.length := by
  rw [← Pool.card_known, ← Pool.card_known]
  refine Finset.card_le_card fun id mem => ?_
  obtain ⟨key, inside, rfl⟩ := Pool.mem_known.1 mem
  obtain ⟨later, found, -⟩ := lasts_visited visits (Pool.read?_of_mem inside)
  exact Pool.mem_known.2 ⟨later, Pool.mem_of_read? found⟩

end World

namespace KeyVisit

open Database (ExecutesKeys KeyContents KeyStatement)

variable {σ : Type} {c : Collation}
  {db : Program.Handler Database.Request Database.Request.Answer σ} {view : σ → KeyContents}
  {s : σ} {w : World} {visit : KeyVisit} {visits : List KeyVisit}

/-- One call to one of the pools. -/
theorem mirrors (executes : ExecutesKeys c db view) (held : view s = w.keyRows) (fits : visit.Fits)
    (few : (w.pool visit.kind).keys.length ≤ KeyStatement.maxLimit) :
    SameResult (visit.query.run.run db s).1 (w.serve visit.inMemory).1
      ∧ view (visit.query.run.run db s).2 = (w.serve visit.inMemory).2.keyRows := by
  obtain ⟨noun, answered, same, others⟩ := w.serve_ask visit.kind visit.call visit.clock visit.draw
  obtain ⟨agrees, left⟩ := executes.mirrors_ask (congrFun held visit.kind) noun visit.draw.keyId
    fits few
  refine ⟨by rw [answered]; exact agrees, left.trans (funext fun kind => ?_)⟩
  by_cases this : kind = visit.kind
  · subst this
    rw [Function.update_self, World.keyRows, same]
  · rw [Function.update_of_ne this, held, World.keyRows, World.keyRows, others kind this]

theorem view_overDatabase (executes : ExecutesKeys c db view) (held : view s = w.keyRows)
    (fits : ∀ visit ∈ visits, visit.Fits)
    (few : ∀ kind, ((w.visited (visits.map inMemory)).pool kind).keys.length
      ≤ KeyStatement.maxLimit) :
    view (overDatabase db s visits) = (w.visited (visits.map inMemory)).keyRows := by
  -- From the end, since what is known of the pools' sizes is known of the last ones.
  induction visits using List.reverseRecOn with
  | nil => exact held
  | append_singleton visits visit ih =>
    rw [List.map_append, World.visited_append] at few
    have earlier := ih (fun visit mem => fits visit (List.mem_append_left _ mem))
      fun kind => (World.length_keys_le _ _ kind).trans (few kind)
    have last := mirrors executes earlier (fits visit (by simp))
      ((World.length_keys_le _ _ _).trans (few visit.kind))
    rw [overDatabase, List.foldl_concat, List.map_append, World.visited_append]
    exact last.2

end KeyVisit

end Latchkey

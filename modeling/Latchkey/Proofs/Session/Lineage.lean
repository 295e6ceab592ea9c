import Latchkey.Proofs.Session.Run
import Mathlib.Logic.Relation

set_option autoImplicit false

/-! # The tokens of a session

A session begins with a token that is issued, and goes on with tokens that are each exchanged for
the next. However the calls that do this are interleaved with others and whichever requests fail,
the tokens of a session form a chain without branches, all for one user, and only the last of them
can be valid (`FlowRace.session_is_chain`). Which record came from which is not stored; it is known
from what the calls were given and answered. -/

namespace Latchkey

/-! ## Relations without branches -/

section Chain

variable {α : Type} {R : α → α → Prop} {chain : List α} {root x y : α}

/-- The elements that a relation leads to one after the other, in order. -/
structure IsLine (R : α → α → Prop) (root : α) (chain : List α) : Prop where
  starts : chain.head? = some root
  distinct : chain.Nodup
  reached : ∀ x, x ∈ chain ↔ Relation.ReflTransGen R root x
  linked : ∀ x y, x ∈ chain → (R x y ↔ [x, y] <:+: chain)

theorem IsLine.getLast?_eq_some (h : IsLine R root chain) (mem : x ∈ chain) (ends : ∀ y, ¬ R x y) :
    chain.getLast? = some x := by
  obtain ⟨before, after, rfl⟩ := List.append_of_mem mem
  cases after with
  | nil => simp
  | cons y after =>
    refine absurd ((h.linked x y mem).2 ⟨before, after, ?_⟩) (ends y)
    simp

theorem pair_infix_cons_cons_iff {z : α} {rest : List α} :
    [x, y] <:+: root :: z :: rest ↔ x = root ∧ y = z ∨ [x, y] <:+: z :: rest := by
  rw [List.infix_cons_iff]
  simp [List.cons_prefix_cons]

/-- A relation that branches nowhere and climbs below a bound leads along a line. -/
theorem exists_isLine (rank : α → Nat) (bound : Nat) (climbs : ∀ x y, R x y → rank x < rank y)
    (bounded : ∀ x y, R x y → rank y < bound) (straight : ∀ x y z, R x y → R x z → y = z)
    (root : α) : ∃ chain, IsLine R root chain := by
  have above : ∀ x y, Relation.ReflTransGen R x y → rank x ≤ rank y := by
    intro x y leads
    induction leads with
    | refl => exact Nat.le_refl _
    | tail _ step ih => exact Nat.le_trans ih (Nat.le_of_lt (climbs _ _ step))
  -- On the distance to the bound, which shrinks with every step.
  generalize distance : bound - rank root = n
  induction n using Nat.strongRecOn generalizing root with
  | _ n ih =>
    by_cases last : ∃ y, R root y
    · obtain ⟨y, step⟩ := last
      have closer : bound - rank y < n := by
        have climb := climbs _ _ step
        have below := bounded _ _ step
        omega
      obtain ⟨chain, line⟩ := ih _ closer y rfl
      have fresh : root ∉ chain := fun mem =>
        absurd (climbs _ _ step) (Nat.not_lt.2 (above _ _ ((line.reached root).1 mem)))
      refine ⟨root :: chain, rfl, List.nodup_cons.2 ⟨fresh, line.distinct⟩, fun x => ?_,
        fun x z mem => ?_⟩
      · rw [List.mem_cons, line.reached, Relation.ReflTransGen.cases_head_iff (a := root)]
        constructor
        · rintro (rfl | leads)
          · exact .inl rfl
          · exact .inr ⟨y, step, leads⟩
        · rintro (rfl | ⟨c, first, leads⟩)
          · exact .inl rfl
          · rw [straight _ _ _ step first]
            exact .inr leads
      · obtain ⟨rest, rfl⟩ : ∃ rest, chain = y :: rest := by
          cases chain with
          | nil => exact absurd line.starts (by simp)
          | cons first rest =>
            obtain rfl : first = y := Option.some.inj line.starts
            exact ⟨rest, rfl⟩
        rw [pair_infix_cons_cons_iff]
        rcases List.mem_cons.1 mem with rfl | mem
        · constructor
          · exact fun step' => .inl ⟨rfl, straight _ _ _ step' step⟩
          · rintro (⟨-, rfl⟩ | inside)
            · exact step
            · exact absurd (inside.subset List.mem_cons_self) fresh
        · rw [line.linked x z mem]
          refine ⟨.inr, fun h => h.resolve_left fun same => fresh (same.1 ▸ mem)⟩
    · refine ⟨[root], rfl, List.nodup_singleton root, fun x => ?_, fun x y mem => ?_⟩
      · rw [List.mem_singleton, Relation.ReflTransGen.cases_head_iff]
        constructor
        · exact fun same => .inl same.symm
        · rintro (same | ⟨c, first, -⟩)
          · exact same.symm
          · exact absurd ⟨c, first⟩ last
      · obtain rfl := List.mem_singleton.1 mem
        refine iff_of_false (fun step => last ⟨y, step⟩) fun inside => ?_
        simpa using inside.length_le

end Chain

/-! ## What calls begin and go on with -/

/-- The record of an identifier that is in neither ledger is not found in the second. -/
theorem Ledger.ne_of_ids_eq {ledger later : Ledger} {id : Uuid} {r : LedgerRecord}
    (same : later.ids = ledger.ids) (absent : id ∉ ledger.ids) : later.find? id ≠ some r :=
  fun found => absent (same ▸ Ledger.mem_ids_iff.2 ⟨r, found⟩)

namespace FlowCall

/-- A result that says that the call has begun a session with a token. -/
def Begins (id : Uuid) : (call : FlowCall) → Option (Except Error call.Value) → Prop
  | .issue _ _ _, some (.ok issued) => issued.tokenId = id
  | _, _ => False

/-- A result that says that the call has exchanged a token for another. -/
def Exchanges (old new : Uuid) : (call : FlowCall) → Option (Except Error call.Value) → Prop
  | .renew _ token, some (.ok issued) => Compact.recordOf? token = some old ∧ issued.tokenId = new
  | _, _ => False

variable {flow : RefreshFlow} {call : FlowCall} {ledger : Ledger} {write : LedgerCall}
  {finish : Except Error write.Answer → Except Error call.Value} {fault : Option Error}
  {id old new : Uuid} {r : LedgerRecord} {result : Option (Except Error call.Value)}

theorem Begins.not_exchanges (h : call.Begins id result) : ¬ call.Exchanges old new result := by
  cases call <;> cases result <;> first | exact h.elim | exact fun e => e

theorem Exchanges.wins (h : call.Exchanges old new result) : call.Wins old result := by
  match call, result, h with
  | .renew _ _, some (.ok _), h => exact h.1

theorem Exchanges.eq_and_eq {old' new' : Uuid} (h : call.Exchanges old new result)
    (h' : call.Exchanges old' new' result) : old = old' ∧ new = new' := by
  match call, result, h, h' with
  | .renew _ _, some (.ok _), h, h' =>
    exact ⟨Option.some.inj (h.1.symm.trans h'.1), h.2.symm.trans h'.2⟩

theorem not_begins_none (call : FlowCall) (id : Uuid) : ¬ call.Begins id none := by
  cases call <;> exact fun begins => begins

theorem not_exchanges_none (call : FlowCall) (old new : Uuid) :
    ¬ call.Exchanges old new none := by
  cases call <;> exact fun exchanges => exchanges

theorem Idle.not_begins {result : Except Error call.Value} (h : call.Idle result) :
    ¬ call.Begins id (some result) := by
  match call, result, h with
  | .issue _ _ _, .error _, _ => exact fun begins => begins
  | .renew _ _, _, _ => exact fun begins => begins
  | .revoke _ _, _, _ => exact fun begins => begins
  | .revokeAll _, _, _ => exact fun begins => begins

theorem Idle.not_exchanges {result : Except Error call.Value} (h : call.Idle result) :
    ¬ call.Exchanges old new (some result) := by
  match call, result, h with
  | .renew _ _, .error _, _ => exact fun exchanges => exchanges
  | .issue _ _ _, _, _ => exact fun exchanges => exchanges
  | .revoke _ _, _, _ => exact fun exchanges => exchanges
  | .revokeAll _, _, _ => exact fun exchanges => exchanges

/-- A call that begins a session has added its record. -/
theorem Writes.pushes_of_begins (h : Writes flow ledger call write finish)
    (begins : call.Begins id (some (finish (ledger.respond fault write).1))) :
    ∃ s, ∃ fresh : ledger.contains s.id = false,
      s.id = id ∧ (ledger.respond fault write).2 = ledger.push s fresh := by
  cases h with
  | renew | revoke | revokeAll => exact begins.elim
  | issue m userId custom algorithm issued signed =>
    obtain ⟨expiresAt, token, -, -, rfl⟩ := TokenCodec.issue_eq_ok_iff.1 signed
    cases fault with
    | some error => exact begins.elim
    | none =>
      simp only [Ledger.respond, Ledger.answer] at begins ⊢
      cases created : ledger.create (flow.newRecord m userId) with
      | error e =>
        rw [created] at begins
        exact begins.elim
      | ok later =>
        rw [created] at begins
        obtain ⟨-, fresh, rfl⟩ := Ledger.create_eq_ok_iff.1 created
        exact ⟨_, fresh, begins, rfl⟩

/-- A call that exchanges a token has added a record of the same user, and has spent the old one,
    which was valid. -/
theorem Writes.rotates_of_exchanges (h : Writes flow ledger call write finish)
    (exchanges : call.Exchanges old new (some (finish (ledger.respond fault write).1))) :
    ∃ r s, ∃ fresh : ledger.contains s.id = false, ledger.find? old = some r ∧ s.id = new
      ∧ s.userId = r.userId
      ∧ (ledger.respond fault write).2 = (ledger.push s fresh).invalidate old := by
  cases h with
  | issue | revoke | revokeAll => exact exchanges.elim
  | renew m token id r custom algorithm issued names found owns signed =>
    obtain ⟨expiresAt, token, -, -, rfl⟩ := TokenCodec.issue_eq_ok_iff.1 signed
    cases fault with
    | some error => exact exchanges.elim
    | none =>
      simp only [Ledger.respond, Ledger.answer] at exchanges ⊢
      cases rotated : ledger.rotate id (flow.newRecord m r.userId) with
      | error e =>
        rw [rotated] at exchanges
        exact exchanges.elim
      | ok later =>
        rw [rotated] at exchanges
        obtain rfl : id = old := Option.some.inj (names.symm.trans exchanges.1)
        obtain ⟨-, -, fresh, rfl⟩ := Ledger.rotate_eq_ok_iff.1 rotated
        exact ⟨r, _, fresh, found, exchanges.2, rfl, rfl⟩

/-- A write that adds a record begins a session of its user, or exchanges a valid record of the same
    user for it. -/
theorem Writes.adds (h : Writes flow ledger call write finish) (absent : id ∉ ledger.ids)
    (found : (ledger.respond fault write).2.find? id = some r) :
    (∃ m custom, call = .issue m r.userId custom)
        ∧ call.Begins id (some (finish (ledger.respond fault write).1))
      ∨ ∃ old s, call.Exchanges old id (some (finish (ledger.respond fault write).1))
        ∧ ledger.find? old = some s ∧ s.userId = r.userId ∧ s.isValid = true := by
  cases fault with
  | some error => exact absurd found (Ledger.ne_of_ids_eq rfl absent)
  | none =>
    cases h with
    | issue m userId custom algorithm issued signed =>
      obtain ⟨expiresAt, token, -, -, rfl⟩ := TokenCodec.issue_eq_ok_iff.1 signed
      simp only [Ledger.respond, Ledger.answer] at found ⊢
      cases created : ledger.create (flow.newRecord m userId) with
      | error e =>
        rw [created] at found
        exact absurd found (Ledger.ne_of_ids_eq rfl absent)
      | ok later =>
        obtain ⟨-, fresh, rfl⟩ := Ledger.create_eq_ok_iff.1 created
        rw [created, Ledger.find?_push] at found
        split at found
        · rename_i same
          obtain rfl := Option.some.inj found
          exact .inl ⟨⟨m, custom, rfl⟩, same⟩
        · exact absurd found (Ledger.ne_of_ids_eq rfl absent)
    | renew m token old s custom algorithm issued names was owns signed =>
      obtain ⟨expiresAt, token, -, -, rfl⟩ := TokenCodec.issue_eq_ok_iff.1 signed
      simp only [Ledger.respond, Ledger.answer] at found ⊢
      cases rotated : ledger.rotate old (flow.newRecord m s.userId) with
      | error e =>
        rw [rotated] at found
        exact absurd found (Ledger.ne_of_ids_eq rfl absent)
      | ok later =>
        obtain ⟨valid, -, fresh, rfl⟩ := Ledger.rotate_eq_ok_iff.1 rotated
        rw [Ledger.hasValid_of_find? was] at valid
        rw [rotated, Ledger.find?_invalidate, Ledger.find?_push] at found
        by_cases same : (flow.newRecord m s.userId).id = id
        · rw [if_pos same] at found
          obtain rfl := Option.some.inj found
          refine .inr ⟨old, s, ⟨names, same⟩, was, ?_, valid⟩
          split <;> rfl
        · rw [if_neg same] at found
          obtain ⟨r', found', -⟩ := Option.map_eq_some_iff.1 found
          exact absurd found' (Ledger.ne_of_ids_eq rfl absent)
    | revoke => exact absurd found (Ledger.ne_of_ids_eq Ledger.ids_invalidate absent)
    | revokeAll => exact absurd found (Ledger.ne_of_ids_eq (Ledger.ids_invalidateWhere _) absent)

end FlowCall

/-! ## What a race begins and goes on with -/

namespace FlowRace

variable {ι : Type} [DecidableEq ι] {calls : ι → FlowCall}

/-- A call has begun a session with a token. -/
def Began (race : FlowRace calls) (schedule : List (Turn ι)) (id : Uuid) : Prop :=
  ∃ i, (calls i).Begins id ((race.after schedule).result? i)

/-- A call has exchanged a token for another. -/
def Renewed (race : FlowRace calls) (schedule : List (Turn ι)) (old new : Uuid) : Prop :=
  ∃ i, (calls i).Exchanges old new ((race.after schedule).result? i)

/-- In one of the turns of a caller, a record is added. -/
def Adds (race : FlowRace calls) (schedule : List (Turn ι)) (i : ι) (id : Uuid) : Prop :=
  ∃ pre t, pre ++ [t] <+: schedule ∧ t.caller = i ∧ id ∉ (race.after pre).ledger.ids
    ∧ id ∈ (race.after (pre ++ [t])).ledger.ids

variable {flow : RefreshFlow} {w : World} {i j : ι} {race : FlowRace calls}
  {schedule : List (Turn ι)} {id old new : Uuid}

/-- No record is added by two callers. -/
theorem adder_unique (adds : race.Adds schedule i id) (adds' : race.Adds schedule j id) :
    i = j := by
  obtain ⟨pre, t, happened, rfl, absent, present⟩ := adds
  obtain ⟨pre', t', happened', rfl, absent', present'⟩ := adds'
  -- Of two turns of a schedule one comes first, and what it adds is there for the other.
  rcases List.prefix_or_prefix_of_prefix happened happened' with before | before
  · rcases List.prefix_concat_iff.1 before with same | before
    · rw [(List.append_singleton_inj.1 same).2]
    · exact absurd (Ledger.mem_ids_of_le (Race.ledger_le_of_prefix before) present) absent'
  · rcases List.prefix_concat_iff.1 before with same | before
    · rw [(List.append_singleton_inj.1 same).2]
    · exact absurd (Ledger.mem_ids_of_le (Race.ledger_le_of_prefix before) present') absent

theorem adds_of_begins
    (begins : (calls i).Begins id (((start flow calls w).after schedule).result? i)) :
    (start flow calls w).Adds schedule i id
      ∧ id ∈ ((start flow calls w).after schedule).ledger.ids := by
  obtain ⟨pre, t, write, finish, wrote, begins⟩ := wrote_of_result flow calls w schedule i
    (FlowCall.not_begins_none _ _) (fun result idle => idle.not_begins) begins
  obtain ⟨s, fresh, rfl, pushed⟩ := wrote.writes.pushes_of_begins begins
  have present : s.id ∈ ((start flow calls w).after (pre ++ [t])).ledger.ids := by
    rw [wrote.moved, pushed]
    simp
  refine ⟨⟨pre, t, wrote.happened, wrote.caller, fun mem => ?_, present⟩,
    Ledger.mem_ids_of_le (Race.ledger_le_of_prefix wrote.happened) present⟩
  rw [← Ledger.contains_eq_true_iff, fresh] at mem
  simp at mem

/-- What the ledger shows of an exchange ever after: the new record comes after the old one and is
    for the same user, and the old one is invalid. -/
structure Exchanged (ledger : Ledger) (old new : Uuid) : Prop where
  present : new ∈ ledger.ids
  later : ledger.ids.idxOf old < ledger.ids.idxOf new
  spent : ledger.hasValid old = false
  owner : ∃ r s, ledger.find? old = some r ∧ ledger.find? new = some s ∧ s.userId = r.userId

/-- A rotation shows this ever after. -/
theorem exchanged_of_le {ledger later : Ledger} {r s : LedgerRecord}
    (fresh : ledger.contains s.id = false) (found : ledger.find? old = some r)
    (owner : s.userId = r.userId) (le : (ledger.push s fresh).invalidate old ≤ later) :
    Exchanged later old s.id := by
  have absent : s.id ∉ ledger.ids := by
    rw [← Ledger.contains_eq_true_iff, fresh]
    simp
  have was := Ledger.mem_ids_iff.2 ⟨r, found⟩
  have present : s.id ∈ ((ledger.push s fresh).invalidate old).ids := by simp
  have still : old ∈ ((ledger.push s fresh).invalidate old).ids := by simp [was]
  have added : ledger.push s fresh ≤ later := Ledger.le_trans (Ledger.le_invalidateWhere _) le
  refine ⟨Ledger.mem_ids_of_le le present, ?_,
    Ledger.hasValid_eq_false_of_le le still (Ledger.hasValid_invalidate_self old), ?_⟩
  · rw [Ledger.idxOf_eq_of_le le present, Ledger.idxOf_eq_of_le le still, Ledger.ids_invalidate,
      Ledger.ids_push, List.idxOf_append_of_mem was, List.idxOf_append_of_notMem absent]
    exact Nat.lt_of_lt_of_le (List.idxOf_lt_length_of_mem was) (Nat.le_add_right _ _)
  · obtain ⟨r', found', ages⟩ := (Ledger.le_trans (Ledger.le_push fresh) added).ages old r found
    obtain ⟨s', found'', ages'⟩ := added.ages s.id s ((Ledger.find?_push fresh).trans (if_pos rfl))
    exact ⟨r', s', found', found'', by rw [ages'.userId_eq, owner, ages.userId_eq]⟩

theorem adds_of_exchanges
    (exchanges : (calls i).Exchanges old new (((start flow calls w).after schedule).result? i)) :
    (start flow calls w).Adds schedule i new
      ∧ Exchanged ((start flow calls w).after schedule).ledger old new := by
  obtain ⟨pre, t, write, finish, wrote, exchanges⟩ := wrote_of_result flow calls w schedule i
    (FlowCall.not_exchanges_none _ _ _) (fun result idle => idle.not_exchanges) exchanges
  obtain ⟨r, s, fresh, found, rfl, owner, rotated⟩ := wrote.writes.rotates_of_exchanges exchanges
  have le : ((start flow calls w).after (pre ++ [t])).ledger
      ≤ ((start flow calls w).after schedule).ledger := Race.ledger_le_of_prefix wrote.happened
  rw [wrote.moved, rotated] at le
  refine ⟨⟨pre, t, wrote.happened, wrote.caller, fun mem => ?_, ?_⟩,
    exchanged_of_le fresh found owner le⟩
  · rw [← Ledger.contains_eq_true_iff, fresh] at mem
    simp at mem
  · rw [wrote.moved, rotated]
    simp

theorem Renewed.right_unique {new' : Uuid} (h : (start flow calls w).Renewed schedule old new)
    (h' : (start flow calls w).Renewed schedule old new') : new = new' := by
  obtain ⟨i, exchanges⟩ := h
  obtain ⟨j, exchanges'⟩ := h'
  obtain rfl : i = j := spender_unique
    ((credited_iff_spends flow calls w schedule i old).1 (.inl exchanges.wins))
    ((credited_iff_spends flow calls w schedule j old).1 (.inl exchanges'.wins))
  exact (exchanges.eq_and_eq exchanges').2

theorem Renewed.left_unique {old' : Uuid} (h : (start flow calls w).Renewed schedule old new)
    (h' : (start flow calls w).Renewed schedule old' new) : old = old' := by
  obtain ⟨i, exchanges⟩ := h
  obtain ⟨j, exchanges'⟩ := h'
  obtain rfl : i = j :=
    adder_unique (adds_of_exchanges exchanges).1 (adds_of_exchanges exchanges').1
  exact (exchanges.eq_and_eq exchanges').1

theorem Began.not_renewed (h : (start flow calls w).Began schedule new) :
    ¬ (start flow calls w).Renewed schedule old new := by
  rintro ⟨j, exchanges⟩
  obtain ⟨i, begins⟩ := h
  obtain rfl : i = j := adder_unique (adds_of_begins begins).1 (adds_of_exchanges exchanges).1
  exact begins.not_exchanges exchanges

/-- The tokens that a session has had are a chain: each is exchanged for the next one and for
    nothing else, and comes from nothing else. All are for one user, and if one of them is still
    valid, it is the last. -/
theorem session_is_chain (flow : RefreshFlow) (calls : ι → FlowCall) (w : World)
    (schedule : List (Turn ι)) (root : Uuid)
    (began : (start flow calls w).Began schedule root) :
    ∃ chain userId, IsLine ((start flow calls w).Renewed schedule) root chain
      ∧ (∀ old new, (start flow calls w).Renewed schedule old new → new ∈ chain → old ∈ chain)
      ∧ ∀ id ∈ chain, ∃ r, ((start flow calls w).after schedule).ledger.find? id = some r
        ∧ r.userId = userId ∧ (r.isValid = true → chain.getLast? = some id) := by
  have exchanged : ∀ old new, (start flow calls w).Renewed schedule old new →
      Exchanged ((start flow calls w).after schedule).ledger old new :=
    fun old new ⟨i, exchanges⟩ => (adds_of_exchanges exchanges).2
  -- Along exchanges, the places of the records in the ledger grow, and the ledger is finite.
  obtain ⟨chain, line⟩ := exists_isLine
    (fun id => ((start flow calls w).after schedule).ledger.ids.idxOf id)
    ((start flow calls w).after schedule).ledger.ids.length
    (fun old new renewed => (exchanged old new renewed).later)
    (fun old new renewed => List.idxOf_lt_length_of_mem (exchanged old new renewed).present)
    (fun old new new' renewed renewed' => renewed.right_unique renewed') root
  obtain ⟨first, begins⟩ := id began
  obtain ⟨r, found⟩ := Ledger.mem_ids_iff.1 (adds_of_begins begins).2
  refine ⟨chain, r.userId, line, fun old new renewed mem => ?_, fun id mem => ?_⟩
  · rcases Relation.ReflTransGen.cases_tail ((line.reached new).1 mem) with
      same | ⟨before, leads, renewed'⟩
    · exact absurd (same ▸ renewed) began.not_renewed
    · rw [renewed.left_unique renewed', line.reached]
      exact leads
  · have leads := (line.reached id).1 mem
    obtain ⟨s, found', owner⟩ : ∃ s, ((start flow calls w).after schedule).ledger.find? id = some s
        ∧ s.userId = r.userId := by
      clear mem
      induction leads with
      | refl => exact ⟨r, found, rfl⟩
      | tail _ renewed ih =>
        obtain ⟨s, found', owner⟩ := ih
        obtain ⟨r', s', was, is, same⟩ := (exchanged _ _ renewed).owner
        obtain rfl : s = r' := Option.some.inj (found'.symm.trans was)
        exact ⟨s', is, same.trans owner⟩
    refine ⟨s, found', owner, fun valid => line.getLast?_eq_some mem fun new renewed => ?_⟩
    have spent := (exchanged id new renewed).spent
    rw [Ledger.hasValid_of_find? found', valid] at spent
    simp at spent

/-- A session that has been renewed once: the token it began with is followed by the one it was
    exchanged for, which is the last and the valid one. -/
theorem renewed_session_is_chain :
    ∃ first : IssuedToken,
      let calls : Bool → FlowCall
        | false => .issue ⟨⟨0, 0⟩, .ofNat 1, 0⟩ (.ofNat 2) []
        | true => .renew ⟨⟨60, 5⟩, .ofNat 3, 0⟩ first.token
      let race := start (.sharing []) calls (.withKey .zero .empty)
      let schedule := List.replicate 2 ⟨false, none, .none⟩ ++ List.replicate 4 ⟨true, none, .none⟩
      race.Began schedule (.ofNat 1) ∧ race.Renewed schedule (.ofNat 1) (.ofNat 3)
        ∧ (race.after schedule).ledger.hasValid (.ofNat 1) = false
        ∧ (race.after schedule).ledger.hasValid (.ofNat 3) = true
        ∧ ∃ chain, IsLine (race.Renewed schedule) (.ofNat 1) chain
          ∧ [.ofNat 1, .ofNat 3] <:+: chain ∧ chain.getLast? = some (.ofNat 3) := by
  obtain ⟨first, issues, -, good⟩ := RefreshFlow.exists_first ⟨Claims.shaped_nil, trivial⟩
  obtain ⟨-, named, presents⟩ := good ⟨60, 5⟩ (by decide) .oneToken
  refine ⟨first, ?_⟩
  intro calls race schedule
  have can : (RefreshFlow.sharing []).CanRenew (.withKey .zero .oneToken) first.token
      ⟨⟨60, 5⟩, .ofNat 3, 0⟩
      ⟨(RefreshFlow.sharing []).codec.claimsOf [] ⟨0, 0⟩ first, .ofNat 2, .ofNat 1⟩ :=
    ⟨presents, ⟨_, .head _, rfl⟩,
      fun key _ _ => RefreshFlow.exists_issue_sharing _ _ _ _ _ (by decide), rfl⟩
  obtain ⟨second, signed⟩ := can.exists_signed (by decide)
  obtain ⟨ledger, rotated⟩ : ∃ ledger, Ledger.oneToken.rotate (.ofNat 1)
      ((RefreshFlow.sharing []).newRecord ⟨⟨60, 5⟩, .ofNat 3, 0⟩ (.ofNat 2)) = .ok ledger := ⟨_, rfl⟩
  have renewing : ((RefreshFlow.sharing []).renew ⟨⟨60, 5⟩, .ofNat 3, 0⟩ first.token).run.run
      (World.answer .none) (.withKey .zero .oneToken) = (.ok second, .withKey .zero ledger) :=
    RefreshFlow.run_renew_eq_ok_iff.2 ⟨_, presents, signed, ledger, rotated, rfl⟩
  obtain ⟨ended, ended', world⟩ : (race.after schedule).rest false = .done (.ok first)
      ∧ (race.after schedule).rest true = .done (.ok second)
      ∧ (race.after schedule).world = .withKey .zero ledger := by
    rw [Race.after_eq_during, List.map_append, List.map_replicate, List.map_replicate]
    exact Race.during_one_after_other Bool.false_ne_true ((calls false).within_operation _)
      ((calls true).within_operation _) (RefreshFlow.run_issue_first issues) renewing
  have began : race.Began schedule (.ofNat 1) := by
    refine ⟨false, ?_⟩
    rw [Race.result?_eq_some_iff.2 ended]
    exact (TokenCodec.ids_of_issue issues).1
  have renewed : race.Renewed schedule (.ofNat 1) (.ofNat 3) := by
    refine ⟨true, ?_⟩
    rw [Race.result?_eq_some_iff.2 ended']
    obtain ⟨_, _, -, -, issues'⟩ := RefreshFlow.signedUnder_eq_ok_iff.1 signed
    exact ⟨(RefreshFlow.names_of_presentedUnder named).1, (TokenCodec.ids_of_issue issues').1⟩
  have spent : ledger.hasValid (.ofNat 1) = false := by
    rw [← Except.ok.inj rotated]
    rfl
  have valid : ledger.hasValid (.ofNat 3) = true := by
    rw [← Except.ok.inj rotated]
    rfl
  obtain ⟨chain, _, line, -, records⟩ := session_is_chain _ _ _ schedule _ began
  have root := List.mem_of_mem_head? line.starts
  have linked := (line.linked _ _ root).1 renewed
  obtain ⟨r, found, -, last⟩ := records (.ofNat 3) (linked.subset (by simp))
  rw [Race.ledger, world] at found
  refine ⟨began, renewed, ?_, ?_, chain, line, linked, last ?_⟩
  · rw [Race.ledger, world]
    exact spent
  · rw [Race.ledger, world]
    exact valid
  · rwa [← Ledger.hasValid_of_find? found]

end FlowRace

end Latchkey

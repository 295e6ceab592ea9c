import Latchkey.Proofs.Ledger.Aging

set_option autoImplicit false

/-! # One user's part of the ledger

A change is confined to a user if it adds and changes records of that user alone
(`Ledger.Confined`). What is done for a user depends on little: on the user's own records, on whose
the records are that it names, and on whether inserts fail. Where two ledgers look alike in that
(`Ledger.LooksAlike`), they answer alike, and the user's records stay the same in both. -/

namespace Latchkey

namespace Ledger

variable {l l' l'' : Ledger} {user? fresh? : Option Uuid} {touches : Uuid → Prop}
  {r s : LedgerRecord} {id old userId : Uuid} {p : LedgerRecord → Bool}

/-! ## Records -/

/-- Whose the record of an identifier is. -/
def owner? (l : Ledger) (id : Uuid) : Option Uuid :=
  (l.find? id).map (·.userId)

theorem mem_push (fresh : l.contains s.id = false) :
    r ∈ (l.push s fresh).records ↔ r ∈ l.records ∨ r = s := by
  simp [push]

theorem mem_invalidateWhere :
    r ∈ (l.invalidateWhere p).records
      ↔ ∃ s ∈ l.records, (if p s then s.invalidated else s) = r :=
  List.mem_map

theorem userId_ite (r : LedgerRecord) (b : Bool) :
    (if b then r.invalidated else r).userId = r.userId :=
  (r.ages_ite b).userId_eq

theorem owner?_push (fresh : l.contains s.id = false) :
    (l.push s fresh).owner? id = if s.id = id then some s.userId else l.owner? id := by
  unfold owner?
  rw [find?_push]
  split <;> rfl

theorem owner?_invalidateWhere : (l.invalidateWhere p).owner? id = l.owner? id := by
  unfold owner?
  rw [find?_invalidateWhere, Option.map_map]
  congr 1
  funext r
  exact userId_ite r (p r)

theorem contains_eq (l : Ledger) (id : Uuid) : l.contains id = (l.owner? id).isSome := by
  rw [owner?, Option.isSome_map, Bool.eq_iff_iff, contains_eq_true_iff, mem_ids_iff,
    Option.isSome_iff_exists]

/-! ## Changes for one user -/

/-- A ledger has become another, and the records of all users but one are the same. -/
def SparesOthers (user? : Option Uuid) (l l' : Ledger) : Prop :=
  ∀ r, user? ≠ some r.userId → (r ∈ l'.records ↔ r ∈ l.records)

/-- Of all records only those of one user are changed or added. At identifiers other than a fresh
    one there are records of the same users as before, and inserts fail as before. -/
structure Confined (user? fresh? : Option Uuid) (l l' : Ledger) : Prop where
  others : l.SparesOthers user? l'
  owners : ∀ id, fresh? ≠ some id → l'.owner? id = l.owner? id
  inserts : l'.failInserts = l.failInserts

theorem Confined.refl (user? fresh? : Option Uuid) (l : Ledger) : l.Confined user? fresh? l :=
  ⟨fun _ _ => .rfl, fun _ _ => rfl, rfl⟩

theorem Confined.trans (h : l.Confined user? fresh? l') (h' : l'.Confined user? fresh? l'') :
    l.Confined user? fresh? l'' where
  others r other := (h'.others r other).trans (h.others r other)
  owners id known := (h'.owners id known).trans (h.owners id known)
  inserts := h'.inserts.trans h.inserts

theorem confined_push (fresh : l.contains s.id = false) :
    l.Confined (some s.userId) (some s.id) (l.push s fresh) where
  others r other := by
    rw [mem_push]
    refine or_iff_left ?_
    rintro rfl
    exact other rfl
  owners id known := by
    rw [owner?_push, if_neg]
    rintro rfl
    exact known rfl
  inserts := rfl

theorem confined_invalidateWhere
    (own : ∀ r ∈ l.records, p r = true → user? = some r.userId) :
    l.Confined user? fresh? (l.invalidateWhere p) where
  others r other := by
    rw [mem_invalidateWhere]
    constructor
    · rintro ⟨s, mem, rfl⟩
      split
      · rename_i chosen
        rw [userId_ite] at other
        exact absurd (own s mem chosen) other
      · exact mem
    · intro mem
      exact ⟨r, mem, if_neg fun chosen => other (own r mem chosen)⟩
  owners id _ := owner?_invalidateWhere
  inserts := rfl

theorem confined_create (created : l.create s = .ok l') :
    l.Confined (some s.userId) (some s.id) l' := by
  obtain ⟨-, fresh, rfl⟩ := create_eq_ok_iff.1 created
  exact confined_push fresh

/-- Invalidating a record is confined to its user. -/
theorem confined_invalidate (found : l.find? id = some r) :
    l.Confined (some r.userId) fresh? (l.invalidate id) := by
  refine confined_invalidateWhere ?_
  intro s mem here
  have found' : l.find? id = some s := find?_eq_some_iff.2 ⟨mem, of_decide_eq_true here⟩
  rw [Option.some.inj (found.symm.trans found')]

/-- Exchanging a record for a successor of the same user is confined to that user. -/
theorem confined_rotate (rotated : l.rotate old s = .ok l') (found : l.find? old = some r)
    (same : r.userId = s.userId) : l.Confined (some s.userId) (some s.id) l' := by
  obtain ⟨-, -, fresh, rfl⟩ := rotate_eq_ok_iff.1 rotated
  refine (confined_push fresh).trans (confined_invalidateWhere ?_)
  intro t mem here
  rcases (mem_push fresh).1 mem with mem | rfl
  · have found' : l.find? old = some t := find?_eq_some_iff.2 ⟨mem, of_decide_eq_true here⟩
    rw [← same, Option.some.inj (found.symm.trans found')]
  · rfl

theorem confined_invalidateAll (l : Ledger) (userId : Uuid) :
    l.Confined (some userId) fresh? (l.invalidateAll userId) := by
  refine confined_invalidateWhere ?_
  intro r mem chosen
  rw [of_decide_eq_true chosen]

/-! ## Ledgers that look alike -/

/-- Two ledgers have the same records of a user. -/
def SameFor (user? : Option Uuid) (l l' : Ledger) : Prop :=
  ∀ r, user? = some r.userId → (r ∈ l'.records ↔ r ∈ l.records)

/-- Two ledgers look alike to a user: they have the same records of the user, at all identifiers
    that are touched there are records of the same users, and inserts fail in both or in neither. -/
structure LooksAlike (user? : Option Uuid) (touches : Uuid → Prop) (l l' : Ledger) : Prop where
  own : l.SameFor user? l'
  owners : ∀ id, touches id → l'.owner? id = l.owner? id
  inserts : l'.failInserts = l.failInserts

/-- What is written fails alike, or makes the same of the records of a user. -/
inductive SameWrite (user? : Option Uuid) : Except Error Ledger → Except Error Ledger → Prop
  | error (e : Error) : SameWrite user? (.error e) (.error e)
  | ok {l l' : Ledger} (same : l.SameFor user? l') : SameWrite user? (.ok l) (.ok l')

theorem SameFor.find? (same : l.SameFor user? l') (found : l.find? id = some r)
    (own : user? = some r.userId) : l'.find? id = some r := by
  obtain ⟨mem, here⟩ := find?_eq_some_iff.1 found
  exact find?_eq_some_iff.2 ⟨(same r own).2 mem, here⟩

theorem SameFor.push (same : l.SameFor user? l') (fresh : l.contains s.id = false)
    (fresh' : l'.contains s.id = false) : (l.push s fresh).SameFor user? (l'.push s fresh') := by
  intro r own
  rw [mem_push, mem_push, same r own]

theorem SameFor.invalidateWhere (same : l.SameFor user? l') (p : LedgerRecord → Bool) :
    (l.invalidateWhere p).SameFor user? (l'.invalidateWhere p) := by
  intro r own
  rw [mem_invalidateWhere, mem_invalidateWhere]
  refine exists_congr fun s => and_congr_left ?_
  rintro rfl
  rw [userId_ite] at own
  exact same s own

theorem SameFor.validOf (same : l.SameFor (some userId) l') :
    l'.validOf userId = l.validOf userId := by
  have nodup : ∀ l : Ledger, (l.records.filter fun r => r.userId = userId).Nodup := by
    intro l
    exact (List.Nodup.of_map _ l.distinct).filter _
  refine List.Perm.countP_eq _ ((List.perm_ext_iff_of_nodup (nodup l') (nodup l)).2 ?_)
  intro r
  rw [List.mem_filter, List.mem_filter]
  refine and_congr_left ?_
  intro own
  exact same r (congrArg some (of_decide_eq_true own).symm)

theorem LooksAlike.contains (alike : l.LooksAlike user? touches l') (touched : touches id) :
    l'.contains id = l.contains id := by
  rw [contains_eq, contains_eq, alike.owners id touched]

theorem LooksAlike.create (alike : l.LooksAlike user? touches l') (touched : touches s.id) :
    SameWrite user? (l.create s) (l'.create s) := by
  unfold Ledger.create
  rw [alike.inserts]
  split
  · exact .error _
  · have same := alike.contains touched
    split
    · rename_i fresh
      rw [dif_pos (same.trans fresh)]
      exact .ok (alike.own.push fresh (same.trans fresh))
    · rename_i taken
      rw [dif_neg (same ▸ taken)]
      exact .error _

theorem LooksAlike.rotate (alike : l.LooksAlike user? touches l') (touched : touches s.id)
    (found : l.find? old = some r) (own : user? = some r.userId) :
    SameWrite user? (l.rotate old s) (l'.rotate old s) := by
  unfold Ledger.rotate
  rw [found, alike.own.find? found own]
  dsimp only
  split
  · have created := alike.create touched
    generalize l.create s = made at created ⊢
    generalize l'.create s = made' at created ⊢
    cases created with
    | error e => exact .error e
    | ok same => exact .ok (same.invalidateWhere _)
  · exact .error _

/-- What is done for another user, under an identifier that is not touched, is not seen. -/
theorem Confined.looksAlike {other? : Option Uuid} (confined : l.Confined user? fresh? l')
    (apart : ∀ userId, other? = some userId → user? ≠ some userId)
    (fresh : ∀ id, fresh? = some id → ¬ touches id) : l.LooksAlike other? touches l' where
  own r own := confined.others r (apart r.userId own)
  owners id touched := confined.owners id fun same => fresh id same touched
  inserts := confined.inserts

/-! ## The same ledger -/

/-- Two ledgers hold the same records, in whatever order, and inserts fail in both or in neither. -/
def Same (l l' : Ledger) : Prop :=
  l.records.Perm l'.records ∧ l.failInserts = l'.failInserts

theorem perm_of_mem_iff (same : ∀ r, r ∈ l.records ↔ r ∈ l'.records) :
    l.records.Perm l'.records :=
  (List.perm_ext_iff_of_nodup (List.Nodup.of_map _ l.distinct)
    (List.Nodup.of_map _ l'.distinct)).2 same

/-- Two changes that are each confined to one of two users come out the same in either order, if
    each makes the same of its user's records in both. -/
theorem same_of_confined {l₁ l₂ l₁₂ l₂₁ : Ledger} {user₁? user₂? fresh₁? fresh₂? : Option Uuid}
    (apart : ∀ userId, user₁? = some userId → user₂? ≠ some userId)
    (first : l.Confined user₁? fresh₁? l₁) (second : l.Confined user₂? fresh₂? l₂)
    (thenSecond : l₁.Confined user₂? fresh₂? l₁₂) (thenFirst : l₂.Confined user₁? fresh₁? l₂₁)
    (own₁ : l₁.SameFor user₁? l₂₁) (own₂ : l₂.SameFor user₂? l₁₂) : l₁₂.Same l₂₁ := by
  refine ⟨perm_of_mem_iff ?_, ?_⟩
  · intro r
    by_cases mine : user₁? = some r.userId
    · rw [thenSecond.others r (apart _ mine), own₁ r mine]
    · by_cases yours : user₂? = some r.userId
      · rw [thenFirst.others r mine, own₂ r yours]
      · rw [thenSecond.others r yours, first.others r mine, thenFirst.others r mine,
          second.others r yours]
  · rw [thenSecond.inserts, first.inserts, thenFirst.inserts, second.inserts]

end Ledger

end Latchkey

import Latchkey.Proofs.Database.KeyMeaning
import Mathlib.Data.List.Sort

set_option autoImplicit false

/-! # Tables that execute the statements about keys

The rows of both tables of keys in lists. They execute the statements about keys under any collation
(`KeyTables.executes`), so that what follows from `ExecutesKeys` is about something. -/

namespace Latchkey.Database

/-- The rows of both tables. -/
structure KeyTables where
  signing : List (KeyRow SigningMaterial)
  encryption : List (KeyRow EncryptionMaterial)

namespace KeyTables

/-! ## One table -/

section OneTable

variable {μ : Type} {c : Collation}

/-- Executes a statement about a table with some rows. -/
def execute (c : Collation) (table : KeyTable μ) (rows : List (KeyRow μ)) :
    KeyStatement μ → Except Fault Answer × List (KeyRow μ)
  | .insert key =>
    if rows.any fun row => c.weights row.id = c.weights key.id.toText then
      (.error (.server 1062 "23000" "Duplicate entry for key 'PRIMARY'"), rows)
    else (.ok (.affected 1), .inserted key :: rows)
  | .retire id time =>
    (.ok (.affected (rows.countP (KeyRow.isUsableUnder c id.toText))),
      rows.map (KeyRow.retireIf c id.toText time.toMicros))
  | .newest limit =>
    let listed := (rows.filter KeyRow.isUsable).mergeSort fun a b =>
      c.weights b.id ≤ c.weights a.id
    (.ok (.rows ((listed.take (min limit KeyStatement.maxLimit)).map (.ofKeyRow table))), rows)
  | .byId id =>
    let found := rows.find? fun row => c.weights row.id = c.weights id.toText
    (.ok (.rows (found.toList.map (.ofKeyRow table))), rows)

theorem pairwise_mergeSort (c : Collation) (rows : List (KeyRow μ)) :
    (rows.mergeSort fun a b => c.weights b.id ≤ c.weights a.id).Pairwise
      fun a b => c.weights b.id ≤ c.weights a.id := by
  have : IsTrans (KeyRow μ) fun a b => c.weights b.id ≤ c.weights a.id :=
    ⟨fun _ _ _ le le' => le_trans le' le⟩
  have : Std.Total fun a b : KeyRow μ => c.weights b.id ≤ c.weights a.id :=
    ⟨fun a b => le_total _ _⟩
  exact List.pairwise_mergeSort' _ rows

/-- What is answered to a statement that means something is something that it means. -/
theorem means_execute {kind : PoolKind} {rows : List (KeyRow kind.Material)}
    {statement : KeyStatement kind.Material} {answer : Except Fault Answer}
    {rows' : Multiset (KeyRow kind.Material)}
    (means : KeyMeaning c kind statement rows answer rows') :
    KeyMeaning c kind statement rows (execute c kind.access.table rows statement).1
      (execute c kind.access.table rows statement).2 := by
  cases statement with
  | insert key =>
    have sent : (KeyRow.inserted key).IsSentFor key := KeyRow.isSentFor_iff.2 rfl
    by_cases taken : ∃ row ∈ rows, c.weights row.id = c.weights key.id.toText
    · rw [execute, if_pos (by simpa using taken)]
      exact .refuses key _ _ _ sent taken
    · rw [execute, if_neg (by simpa using taken)]
      cases means with
      | inserts _ _ answer row sent' fresh fits =>
        obtain rfl := KeyRow.isSentFor_iff.1 sent'
        exact .inserts key _ _ _ sent fresh fits
      | refuses _ _ fault row sent' present =>
        obtain rfl := KeyRow.isSentFor_iff.1 sent'
        exact absurd present taken
  | retire id time =>
    cases means with
    | retires _ _ _ text cut sent fits =>
      have retires := KeyMeaning.retires (c := c) id time (rows : Multiset _) text cut sent fits
      obtain ⟨rfl, rfl⟩ := KeyStatement.eq_of_values_retire sent
      simp only [Multiset.coe_countP, Multiset.map_coe, Bool.decide_eq_true] at retires
      exact retires
  | newest limit =>
    refine .lists limit _ _ (min limit KeyStatement.maxLimit) rfl _ ?_ (pairwise_mergeSort c _)
      (Row.holds_map_ofKeyRow kind _)
    rw [Multiset.filter_coe]
    refine Multiset.coe_eq_coe.2 ((List.mergeSort_perm _ _).trans ?_)
    simp
  | byId id =>
    simp only [execute]
    cases found : rows.find? fun row => c.weights row.id = c.weights id.toText with
    | none => exact .findsNothing id _ _ rfl (by simpa using found)
    | some row =>
      exact .finds id _ _ _ rfl row (List.mem_of_find?_eq_some found)
        (by simpa using List.find?_some found) (Row.holds_ofKeyRow kind row)

end OneTable

/-! ## Both tables -/

/-- What the tables hold. -/
def contents (t : KeyTables) : KeyContents
  | .signing => t.signing
  | .encryption => t.encryption

/-- Answers a request. Nothing else than keys is kept. -/
def answer (c : Collation) : Program.Handler Request Request.Answer KeyTables
  | .send (.signing statement), t =>
    let (a, rows) := execute c .signing t.signing statement
    (a, { t with signing := rows })
  | .send (.encryption statement), t =>
    let (a, rows) := execute c .encryption t.encryption statement
    (a, { t with encryption := rows })
  | .send _, t => (.error (.server 1146 "42S02" "Table doesn't exist"), t)
  | .versions, t => (.ok [], t)
  | .noteBegun _, t => ((), t)
  | .noteComplete _, t => ((), t)

/-- The tables execute the statements. -/
theorem executes (c : Collation) : ExecutesKeys c (answer c) contents := by
  intro kind statement t given rows means
  cases kind with
  | signing =>
    refine ⟨_, _, means_execute means, rfl, funext fun other => ?_⟩
    cases other with
    | signing => rw [Function.update_self]; rfl
    | encryption => rw [Function.update_of_ne (by decide)]; rfl
  | encryption =>
    refine ⟨_, _, means_execute means, rfl, funext fun other => ?_⟩
    cases other with
    | signing => rw [Function.update_of_ne (by decide)]; rfl
    | encryption => rw [Function.update_self]; rfl

end KeyTables

end Latchkey.Database

import Latchkey.Database.Keys
import Latchkey.Proofs.Database.Collation
import Latchkey.Proofs.Database.Meaning
import Latchkey.Proofs.Key.History

set_option autoImplicit false

/-! # What the statements about keys mean

A database that keeps the two tables of keys answers a statement about one of them in one of the
ways that `KeyMeaning` lists, by the values that are sent along with it, and leaves the other table
alone (`ExecutesKeys`). Identifiers are text there, and are compared under a collation. -/

namespace Latchkey

/-! ## Tables -/

namespace Database

/-- The types that columns for texts are declared with. -/
inductive TextType
  | text
  | varchar (length : Nat)

/-- A column of a type can hold a text: so many bytes, or so many characters. -/
def TextType.Holds : TextType → String → Prop
  | .text, s => s.utf8ByteSize ≤ 65535
  | .varchar length, s => s.length ≤ length

instance (type : TextType) (s : String) : Decidable (type.Holds s) :=
  match type with
  | .text => inferInstanceAs (Decidable (_ ≤ _))
  | .varchar _ => inferInstanceAs (Decidable (_ ≤ _))

end Database

namespace PoolKind

open Database (TextType)

/-- The table that takes the place of a pool, and the statements about it. -/
def access : (kind : PoolKind) → Database.Keys.Access kind.Material
  | .signing => Database.Keys.signing
  | .encryption => Database.Keys.encryption

/-- How the columns of the material are declared. -/
def textTypes : PoolKind → List TextType
  | .signing => [.text, .varchar 64]
  | .encryption => [.text, .text, .varchar 16, .text]

/-- The texts of the material fit their columns. -/
def Fits (kind : PoolKind) (material : kind.Material) : Prop :=
  List.Forall₂ TextType.Holds kind.textTypes (kind.access.table.texts material)

@[simp] theorem ofTexts_texts (kind : PoolKind) (material : kind.Material) :
    kind.access.table.ofTexts (kind.access.table.texts material) = material := by
  cases kind <;> rfl

theorem texts_injective (kind : PoolKind) : Function.Injective kind.access.table.texts :=
  Function.LeftInverse.injective kind.ofTexts_texts

end PoolKind

namespace Database

/-! ## Rows -/

/-- A row of a table of keys. -/
structure KeyRow (μ : Type) where
  id : String
  material : μ
  createdAt : Instant
  deletedAt : Option Instant

namespace KeyRow

variable {μ : Type}

/-- The row of a key. -/
def ofKey (key : StoredKey μ) : KeyRow μ :=
  ⟨key.id.toText, key.material, key.createdAt, key.deletedAt⟩

/-- Whether the key of a row is in service. -/
def isUsable (row : KeyRow μ) : Bool :=
  row.deletedAt.isNone

@[simp] theorem id_ofKey (key : StoredKey μ) : (ofKey key).id = key.id.toText := rfl

@[simp] theorem isUsable_ofKey (key : StoredKey μ) : (ofKey key).isUsable = key.isUsable := rfl

/-- Whether it is, and the row has a given identifier. -/
def isUsableUnder (c : Collation) (id : String) (row : KeyRow μ) : Bool :=
  c.weights row.id = c.weights id && row.isUsable

/-- The row, retired at an instant if it is the usable one of this identifier. -/
def retireIf (c : Collation) (id : String) (time : Instant) (row : KeyRow μ) : KeyRow μ :=
  if row.isUsableUnder c id then { row with deletedAt := some time } else row

/-- The row that an insertion adds. -/
def inserted (key : StoredKey μ) : KeyRow μ :=
  ⟨key.id.toText, key.material, key.createdAt.toMicros, none⟩

/-- It is the row of the key, if that is in service and was created at a whole microsecond. -/
theorem inserted_eq_ofKey {key : StoredKey μ} (whole : key.createdAt.toMicros = key.createdAt)
    (usable : key.deletedAt = none) : inserted key = ofKey key := by
  rw [inserted, ofKey, whole, usable]

/-- The cell of a time that may be missing. -/
def cellOf? : Option Instant → Cell
  | some time => .time time
  | none => .null

end KeyRow

/-- What the database sends of a row of a table. -/
structure Row.HoldsKey {μ : Type} (table : KeyTable μ) (cells : Row) (row : KeyRow μ) : Prop where
  id : cells.cell? "id" = some (.text row.id)
  texts : List.Forall₂ (fun column text => cells.cell? column = some (.text text))
    table.materialColumns (table.texts row.material)
  createdAt : cells.cell? "created_at" = some (.time row.createdAt)
  deletedAt : cells.cell? "deleted_at" = some (KeyRow.cellOf? row.deletedAt)

/-- Cells that hold a row, and nothing else. -/
def Row.ofKeyRow {μ : Type} (table : KeyTable μ) (row : KeyRow μ) : Row :=
  [("id", .text row.id)] ++ table.materialColumns.zip ((table.texts row.material).map .text)
    ++ [("created_at", .time row.createdAt), ("deleted_at", KeyRow.cellOf? row.deletedAt)]

theorem Row.holds_ofKeyRow (kind : PoolKind) (row : KeyRow kind.Material) :
    (ofKeyRow kind.access.table row).HoldsKey kind.access.table row := by
  cases kind with
  | signing => exact ⟨rfl, .cons rfl (.cons rfl .nil), rfl, rfl⟩
  | encryption => exact ⟨rfl, .cons rfl (.cons rfl (.cons rfl (.cons rfl .nil))), rfl, rfl⟩

theorem Row.holds_map_ofKeyRow (kind : PoolKind) (rows : List (KeyRow kind.Material)) :
    List.Forall₂ (Row.HoldsKey kind.access.table) (rows.map (ofKeyRow kind.access.table)) rows :=
  List.forall₂_map_left_iff.2 (List.forall₂_same.2 fun row _ => holds_ofKeyRow kind row)

namespace Keys

variable {kind : PoolKind} {cells : Row} {key : StoredKey kind.Material}

/-- A key is read from what the database sends of its row. -/
theorem ofRow_of_holds (h : cells.HoldsKey kind.access.table (.ofKey key)) :
    ofRow kind.access.table cells = .ok key := by
  have id : cells.text "id" = .ok key.id.toText := by simp [Row.text, Row.column, h.id]
  have texts : kind.access.table.materialColumns.mapM cells.text
      = .ok (kind.access.table.texts key.material) :=
    mapM_eq_ok (h.texts.imp fun column text cell => by simp [Row.text, Row.column, cell])
  have createdAt : cells.time "created_at" = .ok key.createdAt := by
    simp [Row.time, Row.column, h.createdAt, KeyRow.ofKey]
  have deletedAt : cells.time? "deleted_at" = .ok key.deletedAt := by
    cases time : key.deletedAt <;>
      simp [Row.time?, Row.column, h.deletedAt, KeyRow.ofKey, KeyRow.cellOf?, time]
  simp only [ofRow, id, texts, createdAt, deletedAt, Row.identifier_toText, bind, Except.bind, pure,
    Except.pure, PoolKind.ofTexts_texts]

theorem mapM_ofRow {rows : List Row} {keys : List (StoredKey kind.Material)}
    (hold : List.Forall₂ (Row.HoldsKey kind.access.table) rows (keys.map .ofKey)) :
    rows.mapM (ofRow kind.access.table) = .ok keys :=
  mapM_eq_ok ((List.forall₂_map_right_iff.1 hold).imp fun _ _ => ofRow_of_holds)

end Keys

/-! ## Values -/

section Sent

variable {kind : PoolKind} {key : StoredKey kind.Material} {row : KeyRow kind.Material}

/-- The values of an insertion are those of a row in service. -/
def KeyRow.IsSentFor (row : KeyRow kind.Material) (key : StoredKey kind.Material) : Prop :=
  (KeyStatement.insert key).values kind.access.table
      = [.text row.id] ++ (kind.access.table.texts row.material).map .text ++ [.time row.createdAt]
    ∧ row.deletedAt = none

theorem KeyRow.isSentFor_iff : row.IsSentFor key ↔ row = .inserted key := by
  constructor
  · rintro ⟨sent, unset⟩
    simp only [KeyStatement.values, Value.uuid, Value.instant, List.cons_append, List.nil_append,
      List.cons.injEq, Value.text.injEq] at sent
    obtain ⟨id, sent⟩ := sent
    obtain ⟨texts, created⟩ := List.append_inj' sent rfl
    have text_inj : Function.Injective Value.text := fun _ _ same => Value.text.inj same
    have material := kind.texts_injective (List.map_injective_iff.2 text_inj texts)
    have createdAt := Value.time.inj (List.cons.inj created).1
    rw [KeyRow.inserted, id, material, createdAt, ← unset]
  · rintro rfl
    exact ⟨rfl, rfl⟩

variable {table : KeyTable kind.Material} {id : Uuid} {text : String} {time cut : Instant}
  {limit number : Nat}

theorem KeyStatement.eq_of_values_retire
    (sent : (KeyStatement.retire id time).values table = [.time cut, .text text]) :
    time.toMicros = cut ∧ id.toText = text := by
  simpa [values, Value.instant, Value.uuid] using sent

theorem KeyStatement.eq_of_values_newest
    (sent : (KeyStatement.newest limit).values table = [.integer number]) :
    min limit maxLimit = number :=
  Int.ofNat_inj.1 (by simpa [values] using sent)

theorem KeyStatement.eq_of_values_byId
    (sent : (KeyStatement.byId id).values table = [.text text]) : id.toText = text := by
  simpa [values, Value.uuid] using sent

end Sent

/-! ## Statements -/

/-- How a database can answer a statement about a table of keys, and which rows the table has
    then. -/
inductive KeyMeaning (c : Collation) (kind : PoolKind) :
    KeyStatement kind.Material → Multiset (KeyRow kind.Material) → Except Fault Answer →
      Multiset (KeyRow kind.Material) → Prop
  | inserts (key : StoredKey kind.Material) (rows : Multiset (KeyRow kind.Material))
      (answer : Answer) (row : KeyRow kind.Material) (sent : row.IsSentFor key)
      (fresh : ∀ other ∈ rows, c.weights other.id ≠ c.weights row.id)
      (fits : kind.Fits row.material ∧ row.createdAt.IsDatetime) :
    KeyMeaning c kind (.insert key) rows (.ok answer) (row ::ₘ rows)
  | refuses (key : StoredKey kind.Material) (rows : Multiset (KeyRow kind.Material))
      (fault : Fault) (row : KeyRow kind.Material) (sent : row.IsSentFor key)
      (taken : ∃ other ∈ rows, c.weights other.id = c.weights row.id) :
    KeyMeaning c kind (.insert key) rows (.error fault) rows
  | retires (id : Uuid) (time : Instant) (rows : Multiset (KeyRow kind.Material)) (text : String)
      (cut : Instant)
      (sent : (KeyStatement.retire id time).values kind.access.table = [.time cut, .text text])
      (fits : cut.IsDatetime) :
    KeyMeaning c kind (.retire id time) rows
      (.ok (.affected (rows.countP fun row => row.isUsableUnder c text)))
      (rows.map (KeyRow.retireIf c text cut))
  | lists (limit : Nat) (rows : Multiset (KeyRow kind.Material)) (found : List Row) (number : Nat)
      (sent : (KeyStatement.newest limit).values kind.access.table = [.integer number])
      (listed : List (KeyRow kind.Material))
      (all : (listed : Multiset (KeyRow kind.Material))
        = rows.filter fun row => row.isUsable)
      (falling : listed.Pairwise fun a b => c.weights b.id ≤ c.weights a.id)
      (hold : List.Forall₂ (Row.HoldsKey kind.access.table) found (listed.take number)) :
    KeyMeaning c kind (.newest limit) rows (.ok (.rows found)) rows
  | finds (id : Uuid) (rows : Multiset (KeyRow kind.Material)) (cells : Row) (text : String)
      (sent : (KeyStatement.byId id).values kind.access.table = [.text text])
      (row : KeyRow kind.Material) (mem : row ∈ rows) (same : c.weights row.id = c.weights text)
      (holds : cells.HoldsKey kind.access.table row) :
    KeyMeaning c kind (.byId id) rows (.ok (.rows [cells])) rows
  | findsNothing (id : Uuid) (rows : Multiset (KeyRow kind.Material)) (text : String)
      (sent : (KeyStatement.byId id).values kind.access.table = [.text text])
      (absent : ∀ row ∈ rows, c.weights row.id ≠ c.weights text) :
    KeyMeaning c kind (.byId id) rows (.ok (.rows [])) rows

/-! ## Databases that execute them -/

/-- The rows of both tables. -/
abbrev KeyContents := (kind : PoolKind) → Multiset (KeyRow kind.Material)

section Executing

variable {σ : Type}

/-- A handler executes the statements about keys: what it answers to one, and which rows the table
    has then, is something that the statement means, as long as it means anything. -/
def ExecutesKeys (c : Collation) (db : Program.Handler Request Request.Answer σ)
    (view : σ → KeyContents) : Prop :=
  ∀ (kind : PoolKind) (statement : KeyStatement kind.Material) s answer rows,
    KeyMeaning c kind statement (view s kind) answer rows →
      ∃ answer rows, KeyMeaning c kind statement (view s kind) answer rows
        ∧ (db (.send (kind.access.statement statement)) s).1 = answer
        ∧ view (db (.send (kind.access.statement statement)) s).2
          = Function.update (view s) kind rows

variable {c : Collation} {db : Program.Handler Request Request.Answer σ} {view : σ → KeyContents}
  {s : σ} {kind : PoolKind} {rows rows' : Multiset (KeyRow kind.Material)}

/-- A statement that means something is answered with something that it means. -/
theorem ExecutesKeys.run_sending (h : ExecutesKeys c db view)
    {statement : KeyStatement kind.Material} {answer : Except Fault Answer}
    (held : view s kind = rows) (means : KeyMeaning c kind statement rows answer rows') :
    ∃ answer rows' s', KeyMeaning c kind statement rows answer rows'
      ∧ view s' = Function.update (view s) kind rows'
      ∧ ∀ (α : Type) (refused : Fault → Program Request Request.Answer α)
        (answered : Answer → Program Request Request.Answer α),
        (sending (kind.access.statement statement) refused answered).run db s
          = (match answer with
            | .error fault => refused fault
            | .ok answer => answered answer).run db s' := by
  subst held
  obtain ⟨answer, rows', means, answered, left⟩ := h kind statement s _ _ means
  refine ⟨answer, rows', _, means, left, fun α refused next => ?_⟩
  subst answered
  simp only [sending, Program.run]
  cases (db (.send (kind.access.statement statement)) s).1 <;> rfl

end Executing

end Database

end Latchkey

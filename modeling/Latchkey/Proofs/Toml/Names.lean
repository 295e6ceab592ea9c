import Latchkey.Toml.Reader
import Mathlib.Data.List.Nodup

set_option autoImplicit false

/-! # Names in TOML documents

A document is refused where a name would come to stand twice in a table. So in whatever is read each
name stands once in its table, at every depth (`Toml.plain_of_parse?`). Such values are the same
after they were laid over nothing. -/

namespace Latchkey

namespace Raw

/-- Each name stands once in its table, here and in all parts. -/
inductive Plain : Raw → Prop
  | null : Plain .null
  | bool (value : Bool) : Plain (.bool value)
  | integer (value : Int) : Plain (.integer value)
  | float (value : Binary64) : Plain (.float value)
  | text (value : String) : Plain (.text value)
  | list (elements : List Raw) (each : ∀ raw ∈ elements, Plain raw) : Plain (.list elements)
  | table (fields : Fields) (distinct : (fields.map (·.1)).Nodup)
      (each : ∀ field ∈ fields, Plain field.2) : Plain (.table fields)

/-- Each name stands once among the fields, and in every table in them. -/
structure Fields.Plain (fields : Fields) : Prop where
  distinct : (fields.map (·.1)).Nodup
  each : ∀ field ∈ fields, field.2.Plain

end Raw

namespace Toml

/-! ## Tables under construction -/

/-- Each name stands once in its table, here and in all parts. -/
inductive Item.Plain : Item → Prop
  | value (raw : Raw) (plain : raw.Plain) : Plain (.value raw)
  | table (origin : Origin) (entries : Entries) (distinct : (entries.map (·.1)).Nodup)
      (each : ∀ entry ∈ entries, Plain entry.2) : Plain (.table origin entries)
  | tables (elements : List Entries) (distinct : ∀ entries ∈ elements, (entries.map (·.1)).Nodup)
      (each : ∀ entries ∈ elements, ∀ entry ∈ entries, Plain entry.2) : Plain (.tables elements)

namespace Entries

/-- Each name stands once in the table, and in every table in it. -/
structure Plain (entries : Entries) : Prop where
  distinct : (entries.map (·.1)).Nodup
  each : ∀ entry ∈ entries, entry.2.Plain

theorem plain_nil : Plain [] :=
  ⟨List.nodup_nil, by nofun⟩

theorem Plain.table {entries : Entries} (plain : entries.Plain) (origin : Origin) :
    (Item.table origin entries).Plain :=
  .table origin entries plain.distinct plain.each

theorem plain_of_table {origin : Origin} {entries : Entries}
    (plain : (Item.table origin entries).Plain) : entries.Plain := by
  cases plain with
  | table _ _ distinct each => exact ⟨distinct, each⟩

theorem plain_of_tables {elements : List Entries} (plain : (Item.tables elements).Plain) :
    ∀ entries ∈ elements, entries.Plain := by
  cases plain with
  | tables _ distinct each => exact fun entries mem => ⟨distinct entries mem, each entries mem⟩

theorem plain_tables {elements : List Entries} (plain : ∀ entries ∈ elements, entries.Plain) :
    (Item.tables elements).Plain :=
  .tables elements (fun entries mem => (plain entries mem).distinct)
    fun entries mem => (plain entries mem).each

/-- A change of what a name stands for makes plain items of plain ones. -/
def KeepsPlain (change : Option Item → Option Item) : Prop :=
  ∀ old new, (∀ item, old = some item → item.Plain) → change old = some new → new.Plain

variable {name : String} {change : Option Item → Option Item} {entries entries' : Entries}

/-- No name comes to an entry but the one that is changed. -/
theorem name_mem_of_modify? (modified : modify? name change entries = some entries')
    {other : String} (mem : other ∈ entries'.map (·.1)) :
    other = name ∨ other ∈ entries.map (·.1) := by
  induction entries generalizing entries' with
  | nil =>
    obtain ⟨item, -, rfl⟩ := Option.map_eq_some_iff.1 modified
    exact .inl (List.mem_singleton.1 mem)
  | cons entry rest ih =>
    obtain ⟨first, item⟩ := entry
    unfold modify? at modified
    split at modified
    · rename_i same
      obtain ⟨item', -, rfl⟩ := Option.map_eq_some_iff.1 modified
      subst same
      exact .inr mem
    · obtain ⟨rest', modified', rfl⟩ := Option.map_eq_some_iff.1 modified
      rcases List.mem_cons.1 mem with rfl | mem
      · exact .inr List.mem_cons_self
      · exact (ih modified' mem).imp_right (List.mem_cons_of_mem _)

theorem Plain.modify? (plain : entries.Plain) (keeps : KeepsPlain change)
    (modified : Entries.modify? name change entries = some entries') : entries'.Plain := by
  induction entries generalizing entries' with
  | nil =>
    obtain ⟨item, changed, rfl⟩ := Option.map_eq_some_iff.1 modified
    refine ⟨List.nodup_singleton _, ?_⟩
    intro entry mem
    obtain rfl := List.mem_singleton.1 mem
    exact keeps none item (by nofun) changed
  | cons entry rest ih =>
    obtain ⟨first, item⟩ := entry
    obtain ⟨fresh, distinct⟩ := List.nodup_cons.1 plain.distinct
    obtain ⟨here, others⟩ := List.forall_mem_cons.1 plain.each
    unfold Entries.modify? at modified
    split at modified
    · rename_i same
      obtain ⟨item', changed, rfl⟩ := Option.map_eq_some_iff.1 modified
      subst same
      refine ⟨List.nodup_cons.2 ⟨fresh, distinct⟩, List.forall_mem_cons.2 ⟨?_, others⟩⟩
      refine keeps (some item) item' ?_ changed
      rintro _ ⟨⟩
      exact here
    · rename_i apart
      obtain ⟨rest', modified', rfl⟩ := Option.map_eq_some_iff.1 modified
      have plain' := ih ⟨distinct, others⟩ modified'
      refine ⟨List.nodup_cons.2 ⟨?_, plain'.distinct⟩, List.forall_mem_cons.2 ⟨here, plain'.each⟩⟩
      intro mem
      exact (name_mem_of_modify? modified' mem).elim (Ne.symm apart) fresh

/-- A change of tables makes plain tables of plain ones. -/
def ChangesPlain (change : Entries → Option Entries) : Prop :=
  ∀ entries entries', entries.Plain → change entries = some entries' → entries'.Plain

theorem plain_of_modifyLast? {change : Entries → Option Entries} (keeps : ChangesPlain change)
    {elements elements' : List Entries} (plain : ∀ entries ∈ elements, entries.Plain)
    (modified : modifyLast? change elements = some elements') :
    ∀ entries ∈ elements', entries.Plain := by
  induction elements generalizing elements' with
  | nil => cases modified
  | cons entries rest ih =>
    obtain ⟨here, others⟩ := List.forall_mem_cons.1 plain
    cases rest with
    | nil =>
      obtain ⟨entries', changed, rfl⟩ := Option.map_eq_some_iff.1 modified
      intro last mem
      obtain rfl := List.mem_singleton.1 mem
      exact keeps entries _ here changed
    | cons second more =>
      obtain ⟨rest', modified', rfl⟩ := Option.map_eq_some_iff.1 modified
      exact List.forall_mem_cons.2 ⟨here, ih others modified'⟩

theorem changesPlain_within? {change : Entries → Option Entries} (keeps : ChangesPlain change)
    (path : List String) : ChangesPlain (within? change path) := by
  induction path with
  | nil => exact keeps
  | cons name path ih =>
    intro entries entries' plain changed
    refine plain.modify? ?_ changed
    intro old new before made
    cases old with
    | none =>
      obtain ⟨inner, fresh, rfl⟩ := Option.map_eq_some_iff.1 made
      exact (ih [] inner plain_nil fresh).table .implied
    | some item =>
      have here := before item rfl
      match item, made with
      | .table .implied inner, made | .table .headed inner, made =>
        obtain ⟨inner', changed', rfl⟩ := Option.map_eq_some_iff.1 made
        exact (ih inner inner' (plain_of_table here) changed').table _
      | .tables elements, made =>
        obtain ⟨elements', changed', rfl⟩ := Option.map_eq_some_iff.1 made
        exact plain_tables (plain_of_modifyLast? ih (plain_of_tables here) changed')

theorem changesPlain_openTable? (path : List String) : ChangesPlain (openTable? path) := by
  intro entries entries' plain opened
  unfold openTable? at opened
  split at opened
  · cases opened
  · refine changesPlain_within? ?_ _ entries entries' plain opened
    intro inner inner' plain changed
    refine plain.modify? ?_ changed
    intro old new before made
    cases old with
    | none =>
      obtain rfl := Option.some.inj made
      exact plain_nil.table .headed
    | some item =>
      have here := before item rfl
      match item, made with
      | .table .implied inner, made =>
        obtain rfl := Option.some.inj made
        exact (plain_of_table here).table .headed

theorem changesPlain_openElement? (path : List String) : ChangesPlain (openElement? path) := by
  intro entries entries' plain opened
  unfold openElement? at opened
  split at opened
  · cases opened
  · refine changesPlain_within? ?_ _ entries entries' plain opened
    intro inner inner' plain changed
    refine plain.modify? ?_ changed
    intro old new before made
    cases old with
    | none =>
      obtain rfl := Option.some.inj made
      exact plain_tables (List.forall_mem_singleton.2 plain_nil)
    | some item =>
      have here := before item rfl
      match item, made with
      | .tables elements, made =>
        obtain rfl := Option.some.inj made
        refine plain_tables ?_
        intro entries mem
        rcases List.mem_append.1 mem with mem | mem
        · exact plain_of_tables here entries mem
        · obtain rfl := List.mem_singleton.1 mem
          exact plain_nil

theorem changesPlain_insert? {value : Raw} (plainValue : value.Plain) (path : List String) :
    ChangesPlain (insert? value path) := by
  induction path with
  | nil => nofun
  | cons name path ih =>
    intro entries entries' plain inserted
    cases path with
    | nil =>
      refine plain.modify? ?_ inserted
      intro old new before made
      cases old with
      | none =>
        obtain rfl := Option.some.inj made
        exact .value value plainValue
      | some item => cases made
    | cons second more =>
      refine plain.modify? ?_ inserted
      intro old new before made
      cases old with
      | none =>
        obtain ⟨inner, fresh, rfl⟩ := Option.map_eq_some_iff.1 made
        exact (ih [] inner plain_nil fresh).table .dotted
      | some item =>
        have here := before item rfl
        match item, made with
        | .table .dotted inner, made =>
          obtain ⟨inner', inserted', rfl⟩ := Option.map_eq_some_iff.1 made
          exact (ih inner inner' (plain_of_table here) inserted').table .dotted

end Entries

/-! ## Values of tables -/

theorem fieldsOf_eq_map (entries : Entries) :
    Item.fieldsOf entries = entries.map fun entry => (entry.1, entry.2.toRaw) := by
  induction entries with
  | nil => rfl
  | cons entry rest ih => simp [Item.fieldsOf, ih]

theorem listOf_eq_map (elements : List Entries) :
    Item.listOf elements = elements.map fun entries => .table (Item.fieldsOf entries) := by
  induction elements with
  | nil => rfl
  | cons entries rest ih => simp [Item.listOf, ih]

theorem plain_fieldsOf {entries : Entries} (distinct : (entries.map (·.1)).Nodup)
    (each : ∀ entry ∈ entries, entry.2.toRaw.Plain) : Raw.Fields.Plain (Item.fieldsOf entries) := by
  rw [fieldsOf_eq_map]
  refine ⟨?_, ?_⟩
  · rw [List.map_map]
    exact distinct
  · intro field mem
    obtain ⟨entry, among, rfl⟩ := List.mem_map.1 mem
    exact each entry among

theorem Item.Plain.toRaw {item : Item} (plain : item.Plain) : item.toRaw.Plain := by
  induction plain with
  | value raw plain => exact plain
  | table origin entries distinct _ ih =>
    obtain ⟨distinct, each⟩ := plain_fieldsOf distinct ih
    exact .table _ distinct each
  | tables elements distinct _ ih =>
    refine .list _ ?_
    intro raw mem
    rw [listOf_eq_map] at mem
    obtain ⟨entries, among, rfl⟩ := List.mem_map.1 mem
    obtain ⟨distinct, each⟩ := plain_fieldsOf (distinct entries among) (ih entries among)
    exact .table _ distinct each

theorem Entries.Plain.fieldsOf {entries : Entries} (plain : entries.Plain) :
    Raw.Fields.Plain (Item.fieldsOf entries) :=
  plain_fieldsOf plain.distinct fun entry mem => (plain.each entry mem).toRaw

/-! ## Reading -/

theorem plain_of_number? {word rest rest' : List Char} {raw : Raw}
    (read : number? word rest = some (raw, rest')) : raw.Plain := by
  have whole (radix : Nat) (word : List Char)
      (read : (integer? radix word).map (fun n => (Raw.integer n, rest)) = some (raw, rest')) :
      raw.Plain := by
    obtain ⟨n, -, same⟩ := Option.map_eq_some_iff.1 read
    obtain ⟨rfl, -⟩ := Prod.mk.inj same
    exact .integer n
  unfold number? at read
  dsimp only at read
  split at read
  · exact whole 16 _ read
  · exact whole 8 _ read
  · exact whole 2 _ read
  · split at read
    · obtain ⟨⟨x, after⟩, -, same⟩ := Option.map_eq_some_iff.1 read
      obtain ⟨rfl, -⟩ := Prod.mk.inj same
      exact .float x
    · split at read
      · obtain ⟨⟨after, more⟩, -, read⟩ := Option.bind_eq_some_iff.1 read
        obtain ⟨⟨x, more⟩, -, same⟩ := Option.bind_eq_some_iff.1 read
        obtain ⟨rfl, -⟩ := Prod.mk.inj (Option.some.inj same)
        exact .float x
      · split at read
        · obtain ⟨rfl, -⟩ := Prod.mk.inj (Option.some.inj read)
          exact .float _
        · split at read
          · obtain ⟨rfl, -⟩ := Prod.mk.inj (Option.some.inj read)
            exact .float _
          · exact whole 10 _ read

theorem plain_of_numeric? {word rest rest' : List Char} {raw : Raw}
    (read : numeric? word rest = some (raw, rest')) : raw.Plain := by
  unfold numeric? at read
  split at read
  · obtain ⟨⟨text, more⟩, -, read⟩ := Option.bind_eq_some_iff.1 read
    obtain ⟨time, -, same⟩ := Option.bind_eq_some_iff.1 read
    obtain ⟨rfl, -⟩ := Prod.mk.inj (Option.some.inj same)
    exact .text time
  · exact plain_of_number? read

/-- What is read with some fuel is plain. -/
structure ReadsPlain (fuel : Nat) : Prop where
  value : ∀ text raw rest, value? fuel text = some (raw, rest) → raw.Plain
  elements : ∀ text elements rest, elements? fuel text = some (elements, rest) →
    ∀ raw ∈ elements, raw.Plain
  pairs : ∀ entries entries' text rest, entries.Plain →
    pairs? fuel entries text = some (entries', rest) → entries'.Plain

theorem readsPlain (fuel : Nat) : ReadsPlain fuel := by
  induction fuel with
  | zero => exact ⟨by nofun, by nofun, by nofun⟩
  | succ fuel ih =>
    refine ⟨?value, ?elements, ?pairs⟩
    case value =>
      intro text raw rest read
      unfold value? at read
      split at read
      · obtain ⟨⟨elements, more⟩, inner, same⟩ := Option.map_eq_some_iff.1 read
        obtain ⟨rfl, -⟩ := Prod.mk.inj same
        exact .list elements (ih.elements _ elements more inner)
      · split at read
        · obtain ⟨rfl, -⟩ := Prod.mk.inj (Option.some.inj read)
          exact .table [] List.nodup_nil (by nofun)
        · obtain ⟨⟨entries, more⟩, inner, same⟩ := Option.map_eq_some_iff.1 read
          obtain ⟨rfl, -⟩ := Prod.mk.inj same
          obtain ⟨distinct, each⟩ := (ih.pairs [] entries _ more Entries.plain_nil inner).fieldsOf
          exact .table _ distinct each
      · obtain ⟨⟨content, more⟩, -, same⟩ := Option.map_eq_some_iff.1 read
        obtain ⟨rfl, -⟩ := Prod.mk.inj same
        exact .text _
      · obtain ⟨⟨content, more⟩, -, same⟩ := Option.map_eq_some_iff.1 read
        obtain ⟨rfl, -⟩ := Prod.mk.inj same
        exact .text _
      · obtain ⟨⟨word, more⟩, -, read⟩ := Option.bind_eq_some_iff.1 read
        exact plain_of_number? read
      · obtain ⟨⟨word, more⟩, -, read⟩ := Option.bind_eq_some_iff.1 read
        dsimp only at read
        split at read
        · obtain ⟨rfl, -⟩ := Prod.mk.inj (Option.some.inj read)
          exact .bool true
        · split at read
          · obtain ⟨rfl, -⟩ := Prod.mk.inj (Option.some.inj read)
            exact .bool false
          · split at read
            · exact plain_of_numeric? read
            · cases read
    case elements =>
      intro text elements rest read
      unfold elements? at read
      split at read
      · cases read
      · obtain ⟨rfl, -⟩ := Prod.mk.inj (Option.some.inj read)
        nofun
      · rename_i fuel' less _
        obtain rfl := Nat.succ.inj less
        obtain ⟨⟨first, more⟩, inner, read⟩ := Option.bind_eq_some_iff.1 read
        have here := ih.value _ first more inner
        dsimp only at read
        split at read
        · obtain ⟨⟨others, after⟩, following, same⟩ := Option.bind_eq_some_iff.1 read
          obtain ⟨rfl, -⟩ := Prod.mk.inj (Option.some.inj same)
          exact List.forall_mem_cons.2 ⟨here, ih.elements _ others after following⟩
        · obtain ⟨rfl, -⟩ := Prod.mk.inj (Option.some.inj read)
          exact List.forall_mem_singleton.2 here
        · cases read
    case pairs =>
      intro entries entries' text rest plain read
      unfold pairs? at read
      obtain ⟨⟨key, more⟩, -, read⟩ := Option.bind_eq_some_iff.1 read
      dsimp only at read
      split at read
      · obtain ⟨⟨value, more⟩, value_read, read⟩ := Option.bind_eq_some_iff.1 read
        obtain ⟨inserted, inserts, read⟩ := Option.bind_eq_some_iff.1 read
        have plain' := Entries.changesPlain_insert? (ih.value _ value more value_read) key entries
          inserted plain inserts
        dsimp only at read
        split at read
        · obtain ⟨rfl, -⟩ := Prod.mk.inj (Option.some.inj read)
          exact plain'
        · exact ih.pairs inserted entries' _ rest plain' read
        · cases read
      · cases read

/-! ## Documents -/

theorem plain_of_header? {entries entries' : Entries} {text rest : List Char} {path : List String}
    (plain : entries.Plain) (read : header? entries text = some (path, entries', rest)) :
    entries'.Plain := by
  unfold header? at read
  split at read
  rename_i isElement text' _
  obtain ⟨⟨name, more⟩, -, read⟩ := Option.bind_eq_some_iff.1 read
  dsimp only at read
  cases isElement with
  | true =>
    obtain ⟨opened, opens, read⟩ := Option.bind_eq_some_iff.1 read
    have plain' := Entries.changesPlain_openElement? name entries opened plain opens
    split at read
    · contradiction
    · obtain ⟨after, -, same⟩ := Option.bind_eq_some_iff.1 read
      cases same
      exact plain'
    · cases read
  | false =>
    obtain ⟨opened, opens, read⟩ := Option.bind_eq_some_iff.1 read
    have plain' := Entries.changesPlain_openTable? name entries opened plain opens
    split at read
    · obtain ⟨after, -, same⟩ := Option.bind_eq_some_iff.1 read
      cases same
      exact plain'
    · contradiction
    · cases read

theorem plain_of_field? {entries entries' : Entries} {text rest : List Char} {path : List String}
    (plain : entries.Plain) (read : field? path entries text = some (entries', rest)) :
    entries'.Plain := by
  unfold field? at read
  obtain ⟨⟨key, more⟩, -, read⟩ := Option.bind_eq_some_iff.1 read
  dsimp only at read
  split at read
  · obtain ⟨⟨value, more⟩, inner, read⟩ := Option.bind_eq_some_iff.1 read
    obtain ⟨inserted, inserts, read⟩ := Option.bind_eq_some_iff.1 read
    obtain ⟨after, -, same⟩ := Option.bind_eq_some_iff.1 read
    obtain ⟨rfl, -⟩ := Prod.mk.inj (Option.some.inj same)
    have plainValue := (readsPlain _).value _ value more inner
    exact Entries.changesPlain_within? (Entries.changesPlain_insert? plainValue key) path entries
      inserted plain inserts
  · cases read

theorem plain_of_lines? {fuel : Nat} {path : List String} {entries entries' : Entries}
    {text : List Char} (plain : entries.Plain)
    (read : lines? fuel path entries text = some entries') : entries'.Plain := by
  induction fuel generalizing path entries text with
  | zero => cases read
  | succ fuel ih =>
    unfold lines? at read
    split at read
    · obtain rfl := Option.some.inj read
      exact plain
    · obtain ⟨⟨path', opened, rest⟩, header, read⟩ := Option.bind_eq_some_iff.1 read
      exact ih (plain_of_header? plain header) read
    · obtain ⟨⟨inserted, rest⟩, field, read⟩ := Option.bind_eq_some_iff.1 read
      exact ih (plain_of_field? plain field) read

/-- Each name stands once in what a document says, and in every table in it. -/
theorem plain_of_parse? {text : String} {fields : Raw.Fields} (read : parse? text = some fields) :
    fields.Plain := by
  obtain ⟨entries, lines, rfl⟩ := Option.map_eq_some_iff.1 read
  exact (plain_of_lines? Entries.plain_nil lines).fieldsOf

end Toml

end Latchkey

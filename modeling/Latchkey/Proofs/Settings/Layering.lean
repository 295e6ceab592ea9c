import Latchkey.Proofs.Settings.Variables

set_option autoImplicit false

/-! # Settings from layers

The variables, a file and an environment each say something of some settings. Whatever they say, the
raw value of a setting is that of the first one that says something of this setting
(`Layers.supply`), and what the others say of other settings does not matter
(`Sources.takes_each_slot_from_its_layer`). Only a list that stands for a section counts or is lost
as a whole, and a table without fields can give way (`Sources.loses_lists_and_blanks`). -/

namespace Latchkey

open Raw (Path)

/-! ## Layers -/

/-- Where the value of a slot can come from. -/
inductive Supplier
  | binding
  | file
  | environment
deriving DecidableEq, Repr

/-- What the variables, a file and an environment say, each for itself. -/
structure Layers where
  bindings : List (String × String)
  file : Raw.Fields
  implied : Slot → Option Raw

namespace Layers

open Slot

/-- Whether a variable sets a field of a section. -/
def binds (l : Layers) (group : String) : Bool :=
  (namesOf group).any fun name => (Sources.bound? l.bindings (.inside group name)).isSome

/-- The list that the file gives in place of a section. The first variable of this section takes the
    place of the whole list. -/
def list? (l : Layers) (group : String) : Option (List Raw) :=
  match l.file.find? group with
  | some (.list elements) => if l.binds group then none else some elements
  | _ => none

/-- What the file says of a slot. A list gives the fields of a section in their order. -/
def said? (l : Layers) : Slot → Option Raw
  | .alone name => l.file.find? name
  | .inside group name =>
    match l.list? group with
    | some elements => Raw.Fields.find? ((namesOf group).zip elements) name
    | none => l.file.at? (.inside group name)

/-- What the environment says of a slot: nothing where the file gives a list for its section. -/
def implied? (l : Layers) (slot : Slot) : Option Raw :=
  if (slot.group?.bind l.list?).isSome then none else l.implied slot

/-- What a supplier says of a slot. A table without fields in the file gives way to what the
    environment implies. -/
def raw? (l : Layers) (slot : Slot) : Supplier → Option Raw
  | .binding => Sources.bound? l.bindings slot
  | .file => (l.said? slot).filter fun raw => !(raw.isEmptyTable && (l.implied? slot).isSome)
  | .environment => l.implied? slot

/-- The first supplier that says something of a slot. -/
def supplier? (l : Layers) (slot : Slot) : Option Supplier :=
  [.binding, .file, .environment].find? fun supplier => (l.raw? slot supplier).isSome

/-- The raw value of a slot: what its supplier says. -/
def supply (l : Layers) (slot : Slot) : Option Raw :=
  (l.supplier? slot).bind (l.raw? slot)

/-- Whether the file gives a single value for a section, and no variable takes the place of that. -/
def refuses (l : Layers) (group : String) : Bool :=
  match l.file.find? group with
  | none | some (.table _) | some (.list _) => false
  | some _ => !l.binds group

theorem supply_eq (l : Layers) (slot : Slot) :
    l.supply slot
      = (Sources.bound? l.bindings slot <|> Raw.merged (l.implied? slot) (l.said? slot)) := by
  unfold supply supplier?
  cases bound : Sources.bound? l.bindings slot with
  | some raw => simp [raw?, bound]
  | none =>
    cases said : l.said? slot with
    | none => cases implies : l.implied? slot <;> simp [raw?, bound, said, implies, Raw.merged]
    | some raw =>
      cases implies : l.implied? slot <;> cases silent : raw.isEmptyTable <;>
        simp [raw?, bound, said, implies, silent, Raw.merged]

variable {l l' : Layers} {slot : Slot} {group name : String}

theorem list?_of_binds (set : l.binds group = true) : l.list? group = none := by
  unfold list?
  split
  · exact if_pos set
  · rfl

theorem list?_eq_none (other : ∀ elements, l.file.find? group ≠ some (.list elements)) :
    l.list? group = none := by
  unfold list?
  split
  · rename_i elements found
    exact absurd found (other elements)
  · rfl

theorem refuses_of_binds (set : l.binds group = true) : l.refuses group = false := by
  unfold refuses
  split <;> simp [set]

theorem refuses_of_isTable
    (isTable : ∀ raw, l.file.find? group = some raw → ∃ inner, raw = .table inner) :
    l.refuses group = false := by
  cases said : l.file.find? group with
  | none => simp [refuses, said]
  | some raw =>
    obtain ⟨inner, rfl⟩ := isTable raw said
    simp [refuses, said]

/-- Where a section is no list, what a file says of it are the fields of a table. -/
theorem supply_of_list?_eq_none (none : l.list? group = none) :
    l.supply (.inside group name)
      = (Sources.bound? l.bindings (.inside group name)
        <|> Raw.merged (l.implied (.inside group name)) (l.file.at? (.inside group name))) := by
  simp only [supply_eq, said?, implied?, group?, Option.bind_some, none]
  rfl

/-- The value of a slot comes from the same supplier, and is the same. -/
def SameAt (l l' : Layers) (slot : Slot) : Prop :=
  l.supplier? slot = l'.supplier? slot ∧ l.supply slot = l'.supply slot

theorem sameAt_of_said? (bound : Sources.bound? l.bindings slot = Sources.bound? l'.bindings slot)
    (said : l.said? slot = l'.said? slot) (implied : l.implied? slot = l'.implied? slot) :
    l.SameAt l' slot := by
  have same : l.raw? slot = l'.raw? slot := by
    funext supplier
    cases supplier <;> simp only [raw?, bound, said, implied]
  have supplier : l.supplier? slot = l'.supplier? slot := by
    simp only [supplier?, same]
  refine ⟨supplier, ?_⟩
  rw [supply, supply, supplier, same]

/-- What is said of a slot depends on the list for its section, if there is one, and on the field of
    the table. -/
theorem sameAt_of_list? (bound : Sources.bound? l.bindings slot = Sources.bound? l'.bindings slot)
    (list : ∀ group, slot.group? = some group → l.list? group = l'.list? group)
    (file : l.file.at? slot = l'.file.at? slot) (implied : l.implied slot = l'.implied slot) :
    l.SameAt l' slot := by
  cases slot with
  | alone name => exact sameAt_of_said? bound file (by simpa [implied?, group?] using implied)
  | inside group name =>
    have list := list group rfl
    refine sameAt_of_said? bound ?_ ?_
    · simp only [said?, list, file]
    · rw [implied?, implied?, group?, Option.bind_some, Option.bind_some, list, implied]

/-! ### One more value in a layer -/

section Added

variable {other : Slot}

/-- Layers with one more variable. -/
def bind (l : Layers) (slot : Slot) (text : String) : Layers :=
  { l with bindings := (slot.variableName, text) :: l.bindings }

/-- Layers with a file that says one thing more. -/
def say (l : Layers) (slot : Slot) (raw : Raw) : Layers :=
  { l with file := l.file.set slot.path raw }

theorem bound?_bind (known : slot ∈ all) (known' : other ∈ all) (text : String) :
    Sources.bound? (l.bind slot text).bindings other
      = if other = slot then some (Raw.ofPlainText text) else Sources.bound? l.bindings other := by
  by_cases same : other = slot
  · subst same
    simp [Sources.bound?, bind]
  · have passed : other.variableName ≠ slot.variableName := fun names =>
      same (eq_of_variableName_eq known' known names)
    simp [Sources.bound?, bind, List.lookup_cons, beq_false_of_ne passed, same]

theorem list?_bind (known : slot ∈ all) (known' : .inside group name ∈ all) (text : String)
    (noList : slot.group? = some group → l.list? group = none) :
    (l.bind slot text).list? group = l.list? group := by
  have bound {field : String} (among : field ∈ namesOf group) :
      Sources.bound? (l.bind slot text).bindings (.inside group field)
        = if .inside group field = slot then some (Raw.ofPlainText text)
          else Sources.bound? l.bindings (.inside group field) :=
    bound?_bind known (inside_mem_all (mem_namesOf known').1 among) text
  by_cases inGroup : slot.group? = some group
  · -- A list that does not count does not count either with one more variable.
    rw [noList inGroup]
    by_cases isList : ∃ elements, l.file.find? group = some (.list elements)
    · obtain ⟨elements, found⟩ := isList
      have lost := noList inGroup
      simp only [list?, found, ite_eq_left_iff, reduceCtorEq, imp_false, Bool.not_eq_true,
        Bool.not_eq_false] at lost
      obtain ⟨field, among, set⟩ := List.any_eq_true.1 lost
      refine list?_of_binds (List.any_eq_true.2 ⟨field, among, ?_⟩)
      rw [bound among]
      split
      · rfl
      · exact set
    · exact list?_eq_none fun elements found => isList ⟨elements, found⟩
  · have same : (l.bind slot text).binds group = l.binds group := by
      rw [Bool.eq_iff_iff, binds, binds, List.any_eq_true, List.any_eq_true]
      refine exists_congr fun field => and_congr_right fun among => ?_
      rw [bound among, if_neg]
      rintro rfl
      exact inGroup rfl
    rw [list?, list?, same]
    rfl

theorem list?_say (known : slot ∈ all) (known' : .inside group name ∈ all) (raw : Raw)
    (noList : slot.group? = some group → l.list? group = none) :
    (l.say slot raw).list? group = l.list? group := by
  by_cases inGroup : slot.group? = some group
  · rw [noList inGroup]
    refine list?_eq_none fun elements found => ?_
    cases slot with
    | alone => cases inGroup
    | inside group' field =>
      obtain rfl := Option.some.inj inGroup
      simp [say, Raw.Fields.set, path, Raw.Fields.find?_put, Raw.placed] at found
  · have elsewhere : slot.path.first ≠ group := by
      cases slot with
      | alone field => exact Ne.symm (apart known known')
      | inside group' field => exact fun same => inGroup (congrArg some same)
    have same : (l.say slot raw).file.find? group = l.file.find? group :=
      l.file.find?_set_of_ne elsewhere
    rw [list?, list?, same]
    rfl

theorem sameAt_bind (known : slot ∈ all) (known' : other ∈ all) (ne : other ≠ slot)
    (noList : ∀ group, slot.group? = some group → other.group? = some group →
      l.list? group = none) (text : String) : (l.bind slot text).SameAt l other := by
  refine sameAt_of_list? ?_ ?_ rfl rfl
  · rw [bound?_bind known known', if_neg ne]
  · intro group inGroup
    cases other with
    | alone => cases inGroup
    | inside group' field =>
      obtain rfl := Option.some.inj inGroup
      exact list?_bind known known' text fun inGroup' => noList _ inGroup' rfl

theorem sameAt_say (known : slot ∈ all) (known' : other ∈ all) (ne : other ≠ slot)
    (noList : ∀ group, slot.group? = some group → other.group? = some group →
      l.list? group = none) (raw : Raw) : (l.say slot raw).SameAt l other := by
  refine sameAt_of_list? rfl ?_ ?_ rfl
  · intro group inGroup
    cases other with
    | alone => cases inGroup
    | inside group' field =>
      obtain rfl := Option.some.inj inGroup
      exact list?_say known known' raw fun inGroup' => noList _ inGroup' rfl
  · exact l.file.at?_set_of_spares (spares_path known' known ne)

end Added

/-! ### A file with variables over it -/

/-- The file with the variables over it. -/
def laid (l : Layers) : Raw.Fields :=
  l.file.lay (Sources.ofVariables l.bindings)

section Laid

variable {names : List String}

theorem isTree_laid (isTree : l.file.IsTree) : l.laid.IsTree :=
  isTree.lay _

theorem bound?_eq_none (unset : l.binds group = false) (among : name ∈ namesOf group) :
    Sources.bound? l.bindings (.inside group name) = none := by
  simpa using List.any_eq_false.1 unset name among

theorem at?_laid (orderly : Sources.Orderly l.bindings) (known : slot ∈ all) :
    l.laid.at? slot = (Sources.bound? l.bindings slot <|> l.file.at? slot) :=
  Sources.at?_lay_ofVariables known (orderly.setOnce known) l.file

theorem find?_laid (orderly : Sources.Orderly l.bindings) (mem : (group, names) ∈ groups)
    (unset : l.binds group = false) : l.laid.find? group = l.file.find? group := by
  refine Sources.find?_lay_ofVariables mem orderly (fun name among => ?_) l.file
  rw [← namesOf_of_mem mem] at among
  exact bound?_eq_none unset among

/-- Variables that set fields of a section make it a table. -/
theorem exists_table_of_binds (orderly : Sources.Orderly l.bindings)
    (mem : (group, names) ∈ groups) (set : l.binds group = true) :
    ∃ inner, l.laid.find? group = some (.table inner) := by
  obtain ⟨name, among, set⟩ := List.any_eq_true.1 set
  obtain ⟨raw, bound⟩ := Option.isSome_iff_exists.1 set
  rw [namesOf_of_mem mem] at among
  have found : l.laid.at? (.inside group name) = some raw := by
    rw [at?_laid orderly (inside_mem_all mem among), bound]
    rfl
  obtain ⟨inner, table, -⟩ := Raw.Fields.find?_of_at? found
  exact ⟨inner, table⟩

end Laid

/-! ### All layers together -/

/-- A tree that says of each slot what is implied, by single values in their sections. -/
structure Bears (base : Raw.Fields) (implied : Slot → Option Raw) : Prop where
  bare : ∀ slot raw, implied slot = some raw → raw.IsBare
  at_eq : ∀ slot ∈ all, base.at? slot = implied slot
  tabular : ∀ entry ∈ groups, ∀ raw, base.find? entry.1 = some raw → ∃ inner, raw = .table inner

theorem merged_orElse {bound implied said : Option Raw}
    (bare : ∀ raw, bound = some raw → raw.IsBare) :
    Raw.merged implied (bound <|> said) = (bound <|> Raw.merged implied said) := by
  cases bound with
  | none => rfl
  | some raw => exact (bare raw rfl).merged_eq implied

section Bears

variable {base : Raw.Fields} {names : List String}

/-- Where the section of a slot is a table in the file with the variables over it, the layers say of
    the slot what its supplier says. -/
theorem at?_lay_laid (bears : Bears base l.implied) (isTree : l.file.IsTree)
    (orderly : Sources.Orderly l.bindings) (known : slot ∈ all)
    (isTable : ∀ group name raw, slot = .inside group name → l.laid.find? group = some raw →
      ∃ inner, raw = .table inner) :
    (base.lay l.laid).at? slot
      = (Sources.bound? l.bindings slot <|> Raw.merged (l.implied slot) (l.file.at? slot)) := by
  have bare : ∀ raw, base.at? slot = some raw → raw.IsBare := by
    rw [bears.at_eq slot known]
    exact bears.bare slot
  have bound : ∀ raw, Sources.bound? l.bindings slot = some raw → raw.IsBare := by
    intro raw set
    obtain ⟨text, -, rfl⟩ := Option.map_eq_some_iff.1 set
    exact Raw.isBare_ofPlainText text
  rw [Raw.Fields.at?_lay_tree (isTree_laid isTree) bare isTable, bears.at_eq slot known,
    at?_laid orderly known, merged_orElse bound]

/-- What is laid over a table or over nothing is a table again, if it is one itself. -/
theorem isTable_lay_laid (bears : Bears base l.implied) (isTree : l.file.IsTree)
    (mem : (group, names) ∈ groups)
    (isTable : ∀ raw, l.laid.find? group = some raw → ∃ inner, raw = .table inner) (raw : Raw)
    (is : (base.lay l.laid).find? group = some raw) : ∃ inner, raw = .table inner := by
  rw [Raw.Fields.find?_lay_tree base (isTree_laid isTree)] at is
  cases above : l.laid.find? group with
  | none =>
    rw [above] at is
    exact bears.tabular _ mem raw is
  | some raw' =>
    obtain ⟨inner, rfl⟩ := isTable raw' above
    rw [above] at is
    obtain rfl := Option.some.inj is
    cases inner with
    | nil =>
      cases under : base.find? group with
      | none => exact ⟨[], rfl⟩
      | some raw => exact bears.tabular _ mem raw under
    | cons field more => exact ⟨_, rfl⟩

/-- A section that is a table in the file with the variables over it takes its fields from their
    suppliers. -/
theorem section?_of_isTable (bears : Bears base l.implied) (isTree : l.file.IsTree)
    (orderly : Sources.Orderly l.bindings) (mem : (group, names) ∈ groups)
    (isTable : ∀ raw, l.laid.find? group = some raw → ∃ inner, raw = .table inner)
    (noList : l.list? group = none) :
    ∃ inner, (base.lay l.laid).section? group names = some inner
      ∧ ∀ name ∈ names, inner.find? name = l.supply (.inside group name) := by
  obtain ⟨inner, is, fields⟩ := Raw.Fields.exists_section? names
    (isTable_lay_laid bears isTree mem isTable)
  refine ⟨inner, is, fun name among => ?_⟩
  rw [fields, supply_of_list?_eq_none noList]
  refine at?_lay_laid bears isTree orderly (inside_mem_all mem among) ?_
  intro group' name' raw same
  obtain ⟨rfl, rfl⟩ := Slot.inside.inj same
  exact isTable raw

/-- A list that counts stands for a section as the fields in their order. -/
theorem section?_of_list (isTree : l.file.IsTree) (orderly : Sources.Orderly l.bindings)
    (mem : (group, names) ∈ groups) (unset : l.binds group = false) {elements : List Raw}
    (said : l.file.find? group = some (.list elements)) :
    ∃ inner, (base.lay l.laid).section? group names = some inner
      ∧ ∀ name ∈ names, inner.find? name = l.supply (.inside group name) := by
  have found := Raw.Fields.find?_lay_tree base (isTree_laid isTree) group
  rw [find?_laid orderly mem unset, said] at found
  have list : l.list? group = some elements := by simp [list?, said, unset]
  refine ⟨names.zip elements, by rw [Raw.Fields.section?, found]; rfl, fun name among => ?_⟩
  rw [← namesOf_of_mem mem] at among
  simp [supply_eq, said?, implied?, group?, list, bound?_eq_none unset among, namesOf_of_mem mem,
    Raw.merged_none]

/-- A section is refused, or its fields come from their suppliers. -/
theorem section?_lay_laid (bears : Bears base l.implied) (isTree : l.file.IsTree)
    (orderly : Sources.Orderly l.bindings) (mem : (group, names) ∈ groups) :
    if l.refuses group then (base.lay l.laid).section? group names = none
    else ∃ inner, (base.lay l.laid).section? group names = some inner
      ∧ ∀ name ∈ names, inner.find? name = l.supply (.inside group name) := by
  cases set : l.binds group with
  | true =>
    obtain ⟨inner, table⟩ := exists_table_of_binds orderly mem set
    rw [refuses_of_binds set]
    refine section?_of_isTable bears isTree orderly mem (fun raw is => ?_) (list?_of_binds set)
    exact ⟨inner, Option.some.inj (is.symm.trans table)⟩
  | false =>
    have same := find?_laid orderly mem set
    by_cases isTable : ∀ raw, l.file.find? group = some raw → ∃ inner, raw = .table inner
    · rw [refuses_of_isTable isTable]
      refine section?_of_isTable bears isTree orderly mem (same ▸ isTable) ?_
      refine list?_eq_none fun elements list => ?_
      obtain ⟨inner, other⟩ := isTable _ list
      cases other
    · -- Without variables, other than a table replaces what is implied.
      simp only [not_forall] at isTable
      obtain ⟨raw, said, other⟩ := isTable
      cases raw with
      | table inner => exact absurd ⟨inner, rfl⟩ other
      | list elements =>
        have fine : l.refuses group = false := by simp [refuses, said]
        rw [fine]
        exact section?_of_list isTree orderly mem set said
      | _ =>
        have found := Raw.Fields.find?_lay_tree base (isTree_laid isTree) group
        rw [same, said] at found
        have refused : l.refuses group = true := by simp [refuses, said, set]
        rw [refused, if_pos rfl, Raw.Fields.section?, found]
        rfl

end Bears

end Layers

/-! ## Loading -/

namespace Sources

open Slot

/-- What becomes of raw fields: the settings take them, and have to pass the checks. -/
def settled (fields : Raw.Fields) : Except LoadFault Settings :=
  match Settings.ofFields? fields with
  | none => .error .unusable
  | some settings => (settings.validate.map fun () => settings).mapError .invalid

theorem loadOver_eq_settled {base layer : Raw.Layer} {file : String} {s : Sources}
    (reads : ofFile? s.files file = some layer) :
    s.loadOver base file
      = settled (Raw.ofLayers [base, Raw.ofLayers [layer, ofVariables s.bindings]]) := by
  rw [loadOver, rawFields?, reads]
  rfl

/-- Settings that are loaded are taken from all layers together, and pass the checks. -/
theorem taken_of_loadOver {base : Raw.Layer} {file : String} {s : Sources} {settings : Settings}
    (loads : s.loadOver base file = .ok settings) :
    ∃ layer, Settings.ofFields?
        (Raw.ofLayers [base, Raw.ofLayers [layer, ofVariables s.bindings]]) = some settings
      ∧ settings.validate = .ok () := by
  cases reads : ofFile? s.files file with
  | none =>
    rw [loadOver, rawFields?, reads] at loads
    cases loads
  | some layer =>
    rw [loadOver_eq_settled reads, settled] at loads
    split at loads
    · cases loads
    · rename_i found taken
      cases checked : found.validate with
      | error fault =>
        rw [checked] at loads
        cases loads
      | ok =>
        rw [checked] at loads
        cases loads
        exact ⟨layer, taken, checked⟩

end Sources

namespace Layers

open Slot Sources

variable {l : Layers} {base : Raw.Fields}

/-- What layers load: nothing where the file gives a single value for a section that no variable
    sets a field of, else the settings of a tree that holds at each slot what its supplier says, and
    nothing else. -/
def outcome (l : Layers) : Except LoadFault Settings :=
  if groups.any fun entry => l.refuses entry.1 then .error .unusable else settled (tree l.supply)

theorem settled_lay_laid (bears : Bears base l.implied) (isTree : l.file.IsTree)
    (orderly : Orderly l.bindings) : settled (base.lay l.laid) = l.outcome := by
  unfold outcome
  split
  · rename_i refused
    obtain ⟨⟨group, names⟩, mem, refused⟩ := List.any_eq_true.1 refused
    have lost := section?_lay_laid bears isTree orderly mem
    rw [if_pos refused] at lost
    rw [settled, Settings.ofFields?_eq_none mem lost]
  · rename_i fine
    have environment : (base.lay l.laid).at? (.alone "environment")
        = (tree l.supply).at? (.alone "environment") := by
      have known : Slot.alone "environment" ∈ all := by decide
      rw [at?_tree _ known, at?_lay_laid bears isTree orderly known nofun, supply_eq]
      rfl
    have sections : ∀ entry ∈ groups, ∃ inner inner',
        (base.lay l.laid).section? entry.1 entry.2 = some inner
          ∧ (tree l.supply).section? entry.1 entry.2 = some inner'
          ∧ ∀ name ∈ entry.2, inner.find? name = inner'.find? name := by
      rintro ⟨group, names⟩ mem
      have kept : l.refuses group = false :=
        Bool.eq_false_iff.2 fun refused => fine (List.any_eq_true.2 ⟨_, mem, refused⟩)
      have fields := section?_lay_laid bears isTree orderly mem
      rw [kept] at fields
      obtain ⟨inner, is, said⟩ := fields
      obtain ⟨inner', is', said'⟩ := section?_tree l.supply mem
      exact ⟨inner, inner', is, is', fun name among =>
        (said name among).trans (said' name among).symm⟩
    rw [settled, settled, Settings.ofFields?_congr environment sections]

end Layers

namespace Sources

open Slot

/-- Settings that are loaded over a layer are what their layers load. -/
theorem loadOver_eq_outcome {base layer : Raw.Layer} {file : String} {s : Sources}
    {implied : Slot → Option Raw} (bears : Layers.Bears (Raw.ofLayers [base]) implied)
    (reads : ofFile? s.files file = some layer) (orderly : Orderly s.bindings) :
    s.loadOver base file = (Layers.mk s.bindings (Raw.ofLayers [layer]) implied).outcome := by
  rw [loadOver_eq_settled reads]
  exact Layers.settled_lay_laid (l := ⟨s.bindings, Raw.ofLayers [layer], implied⟩) bears
    (Raw.isTree_ofLayers [layer]) orderly

theorem bears_ofEnvironment (e : Environment) :
    Layers.Bears (Raw.ofLayers [ofEnvironment e]) e.implied := by
  refine ⟨fun slot raw => e.isBare_of_implied, fun slot => e.at?_ofEnvironment, ?_⟩
  intro entry mem raw is
  have apart : entry.1 ≠ "environment" := by
    have apart : ∀ entry ∈ groups, entry.1 ≠ "environment" := by decide
    exact apart entry mem
  rw [e.ofLayers_ofEnvironment] at is
  by_cases same : entry.1 = "logging"
  · simp only [Raw.Fields.find?, same, String.reduceEq, if_pos] at is
    exact ⟨_, (Option.some.inj is).symm⟩
  · simp [Raw.Fields.find?, same, apart] at is

theorem bears_nil : Layers.Bears (Raw.ofLayers [[]]) fun _ => none :=
  ⟨nofun, fun slot _ => Raw.Fields.at?_nil slot, nofun⟩

end Sources

end Latchkey

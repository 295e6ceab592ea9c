import Latchkey.Proofs.Settings.Slots
import Latchkey.Settings.Taking

set_option autoImplicit false

/-! # Settings out of slots

Settings are taken out of a tree section by section, which can be tables, or lists of their fields in
order (`Raw.Fields.section?`). What they are depends on nothing but the fields of these
(`Settings.ofFields?_congr`), so the tree could as well hold just the values of all slots
(`Slot.tree`). Where a section is anything else, no settings are taken at all. -/

namespace Latchkey

/-! ## The slots of the settings -/

namespace Slot

/-- The sections and the names of their fields. -/
def groups : List (String × List String) :=
  [("database", DatabaseSettings.fieldNames), ("token", TokenSettings.fieldNames),
    ("key_rotation", RotationSettings.fieldNames), ("scheduler", SchedulerSettings.fieldNames),
    ("logging", LoggingSettings.fieldNames)]

/-- The slots of all settings. -/
def all : List Slot :=
  .alone "environment" :: groups.flatMap fun (group, names) => names.map (.inside group)

/-- The section of a slot, if it stands in one. -/
def group? : Slot → Option String
  | .alone _ => none
  | .inside group _ => some group

/-- The names of a section's fields. -/
def namesOf (group : String) : List String :=
  (groups.lookup group).getD []

theorem namesOf_of_mem {group : String} {names : List String} (mem : (group, names) ∈ groups) :
    namesOf group = names := by
  have each : ∀ entry ∈ groups, namesOf entry.1 = entry.2 := by decide
  exact each _ mem

theorem inside_mem_all {group name : String} {names : List String}
    (mem : (group, names) ∈ groups) (among : name ∈ names) : inside group name ∈ all :=
  List.mem_cons_of_mem _ (List.mem_flatMap.2 ⟨_, mem, List.mem_map.2 ⟨name, among, rfl⟩⟩)

theorem mem_namesOf {group name : String} (known : inside group name ∈ all) :
    (group, namesOf group) ∈ groups ∧ name ∈ namesOf group := by
  obtain same | inGroup := List.mem_cons.1 known
  · cases same
  · obtain ⟨⟨group', names⟩, mem, among⟩ := List.mem_flatMap.1 inGroup
    obtain ⟨name', named, same⟩ := List.mem_map.1 among
    obtain ⟨rfl, rfl⟩ := Slot.inside.inj same
    rw [namesOf_of_mem mem]
    exact ⟨mem, named⟩

end Slot

/-! ## Reading a section -/

/-- The fields of a section, which has none where it is not there. -/
def Raw.Fields.section? (fields : Fields) (group : String) (names : List String) : Option Fields :=
  match fields.find? group with
  | none => some []
  | some raw => raw.section? names

/-- A section that is a table, or not there at all, has the fields that the tree says of it. -/
theorem Raw.Fields.exists_section? {fields : Fields} {group : String} (names : List String)
    (isTable : ∀ raw, fields.find? group = some raw → ∃ inner, raw = .table inner) :
    ∃ inner, fields.section? group names = some inner
      ∧ ∀ name, inner.find? name = fields.at? (.inside group name) := by
  cases found : fields.find? group with
  | none => exact ⟨[], by rw [Fields.section?, found], fun name => by rw [at?, found]; rfl⟩
  | some raw =>
    obtain ⟨inner, rfl⟩ := isTable raw found
    exact ⟨inner, by rw [Fields.section?, found]; rfl, fun name => by rw [at?, found]; rfl⟩

/-- A section reads no more of a raw value than the fields of some names. -/
structure ReadsOnly {α : Type} (names : List String) (take : Raw → Option α) : Prop where
  fails : ∀ raw : Raw, raw.section? names = none → take raw = none
  congr : ∀ (raw raw' : Raw) (fields fields' : Raw.Fields), raw.section? names = some fields →
    raw'.section? names = some fields' →
      (∀ name ∈ names, fields.find? name = fields'.find? name) → take raw = take raw'

/-- A section that is taken out of its fields, and reads these by their names. -/
theorem readsOnly_of_bind {α : Type} {names : List String} {take : Raw → Option α}
    {build : Raw.Fields → Option α} (bound : ∀ raw, take raw = (raw.section? names).bind build)
    (reads : ∀ fields fields' : Raw.Fields,
      (∀ name ∈ names, fields.find? name = fields'.find? name) → build fields = build fields') :
    ReadsOnly names take := by
  constructor
  · intro raw none
    rw [bound, none]
    rfl
  · intro raw raw' fields fields' is is' same
    rw [bound, bound, is, is']
    exact reads fields fields' same

theorem LoggingSettings.readsOnly : ReadsOnly fieldNames ofRaw? := by
  refine readsOnly_of_bind (fun _ => rfl) fun fields fields' same => ?_
  simp only [fieldNames, List.forall_mem_cons] at same
  simp only [Raw.Fields.orElse?, same]

theorem TokenSettings.readsOnly : ReadsOnly fieldNames ofRaw? := by
  refine readsOnly_of_bind (fun _ => rfl) fun fields fields' same => ?_
  simp only [fieldNames, List.forall_mem_cons] at same
  simp only [Raw.Fields.orElse?, same]

theorem RotationSettings.readsOnly : ReadsOnly fieldNames ofRaw? := by
  refine readsOnly_of_bind (fun _ => rfl) fun fields fields' same => ?_
  simp only [fieldNames, List.forall_mem_cons] at same
  simp only [Raw.Fields.orElse?, same]

theorem SchedulerSettings.readsOnly : ReadsOnly fieldNames ofRaw? := by
  refine readsOnly_of_bind (fun _ => rfl) fun fields fields' same => ?_
  simp only [fieldNames, List.forall_mem_cons] at same
  simp only [Raw.Fields.orElse?, same]

theorem DatabaseSettings.readsOnly : ReadsOnly fieldNames ofRaw? := by
  refine readsOnly_of_bind (fun _ => rfl) fun fields fields' same => ?_
  simp only [fieldNames, List.forall_mem_cons] at same
  simp only [Raw.Fields.orElse?, same]

section ReadsOnly

variable {α : Type} {names : List String} {take : Raw → Option α} {group : String} {default : α}
  {fields fields' inner inner' : Raw.Fields}

theorem ReadsOnly.orElse?_eq_none (reads : ReadsOnly names take)
    (refused : fields.section? group names = none) : fields.orElse? group take default = none := by
  unfold Raw.Fields.section? at refused
  unfold Raw.Fields.orElse?
  cases found : fields.find? group with
  | none => simp [found] at refused
  | some raw =>
    rw [found] at refused
    exact reads.fails raw refused

/-- A section is the same out of two trees that give it the same fields. -/
theorem ReadsOnly.orElse?_eq (reads : ReadsOnly names take)
    (empty : take (.table []) = some default) (is : fields.section? group names = some inner)
    (is' : fields'.section? group names = some inner')
    (same : ∀ name ∈ names, inner.find? name = inner'.find? name) :
    fields.orElse? group take default = fields'.orElse? group take default := by
  have reduced {fields inner : Raw.Fields} (is : fields.section? group names = some inner) :
      fields.orElse? group take default = take (.table inner) := by
    unfold Raw.Fields.section? at is
    unfold Raw.Fields.orElse?
    cases found : fields.find? group with
    | none =>
      rw [found] at is
      obtain rfl := Option.some.inj is
      exact empty.symm
    | some raw =>
      rw [found] at is
      exact reads.congr raw (.table inner) inner inner is rfl fun _ _ => rfl
  rw [reduced is, reduced is']
  exact reads.congr _ _ inner inner' rfl rfl same

end ReadsOnly

/-- Settings depend on nothing else in a tree than the fields of their sections. -/
theorem Settings.ofFields?_congr {fields fields' : Raw.Fields}
    (environment : fields.find? "environment" = fields'.find? "environment")
    (sections : ∀ entry ∈ Slot.groups, ∃ inner inner',
      fields.section? entry.1 entry.2 = some inner ∧ fields'.section? entry.1 entry.2 = some inner'
        ∧ ∀ name ∈ entry.2, inner.find? name = inner'.find? name) :
    ofFields? fields = ofFields? fields' := by
  have group {α : Type} {names : List String} {take : Raw → Option α} (reads : ReadsOnly names take)
      (group : String) (default : α) (mem : (group, names) ∈ Slot.groups)
      (empty : take (.table []) = some default) :
      fields.orElse? group take default = fields'.orElse? group take default := by
    obtain ⟨inner, inner', is, is', same⟩ := sections _ mem
    exact reads.orElse?_eq empty is is' same
  have environments : fields.orElse? "environment" Environment.ofRaw? .development
      = fields'.orElse? "environment" Environment.ofRaw? .development := by
    simp only [Raw.Fields.orElse?, environment]
  rw [ofFields?, ofFields?, environments,
    group DatabaseSettings.readsOnly "database" {} (by decide) rfl,
    group TokenSettings.readsOnly "token" {} (by decide) rfl,
    group RotationSettings.readsOnly "key_rotation" {} (by decide) rfl,
    group SchedulerSettings.readsOnly "scheduler" {} (by decide) rfl,
    group LoggingSettings.readsOnly "logging" {} (by decide) rfl]

/-- One section that is neither a table nor a list spoils the whole. -/
theorem Settings.ofFields?_eq_none {fields : Raw.Fields} {group : String} {names : List String}
    (mem : (group, names) ∈ Slot.groups) (refused : fields.section? group names = none) :
    ofFields? fields = none := by
  cases taken : ofFields? fields with
  | none => rfl
  | some settings =>
    simp only [ofFields?, bind, Option.bind_eq_some_iff] at taken
    obtain ⟨_, -, _, database, _, token, _, rotation, _, scheduler, _, logging, -⟩ := taken
    simp only [Slot.groups, List.mem_cons, Prod.mk.injEq, List.not_mem_nil, or_false] at mem
    obtain ⟨rfl, rfl⟩ | ⟨rfl, rfl⟩ | ⟨rfl, rfl⟩ | ⟨rfl, rfl⟩ | ⟨rfl, rfl⟩ := mem
    · simp [DatabaseSettings.readsOnly.orElse?_eq_none refused] at database
    · simp [TokenSettings.readsOnly.orElse?_eq_none refused] at token
    · simp [RotationSettings.readsOnly.orElse?_eq_none refused] at rotation
    · simp [SchedulerSettings.readsOnly.orElse?_eq_none refused] at scheduler
    · simp [LoggingSettings.readsOnly.orElse?_eq_none refused] at logging

namespace Slot

/-- The tree that holds a raw value at each slot that has one, and nothing else. -/
def tree (supply : Slot → Option Raw) : Raw.Fields :=
  ((supply (.alone "environment")).map ("environment", ·)).toList
    ++ groups.map fun (group, names) =>
      (group, .table (names.filterMap fun name =>
        (supply (.inside group name)).map (name, ·)))

theorem find?_filterMap (supply : String → Option Raw) (names : List String) (name : String) :
    Raw.Fields.find? (names.filterMap fun name => (supply name).map (name, ·)) name
      = if name ∈ names then supply name else none := by
  induction names with
  | nil => rfl
  | cons first rest ih =>
    cases said : supply first with
    | none =>
      by_cases same : name = first
      · subst same
        simp [said, ih]
      · simp [said, ih, same]
    | some raw =>
      by_cases same : name = first
      · subst same
        simp [said, Raw.Fields.find?]
      · simp [said, ih, same, Raw.Fields.find?]

theorem find?_tree (supply : Slot → Option Raw) {group : String} {names : List String}
    (mem : (group, names) ∈ groups) :
    (tree supply).find? group = some (.table (names.filterMap fun name =>
      (supply (.inside group name)).map (name, ·))) := by
  simp only [groups, List.mem_cons, Prod.mk.injEq, List.not_mem_nil, or_false] at mem
  obtain ⟨rfl, rfl⟩ | ⟨rfl, rfl⟩ | ⟨rfl, rfl⟩ | ⟨rfl, rfl⟩ | ⟨rfl, rfl⟩ := mem <;>
    cases said : supply (.alone "environment") <;> simp [tree, groups, said, Raw.Fields.find?]

theorem at?_tree (supply : Slot → Option Raw) {slot : Slot} (known : slot ∈ all) :
    (tree supply).at? slot = supply slot := by
  obtain rfl | inGroup := List.mem_cons.1 known
  · cases said : supply (.alone "environment") <;>
      simp [tree, groups, said, Raw.Fields.at?, Raw.Fields.find?]
  · obtain ⟨⟨group, names⟩, mem, among⟩ := List.mem_flatMap.1 inGroup
    obtain ⟨name, named, rfl⟩ := List.mem_map.1 among
    rw [Raw.Fields.at?, find?_tree supply mem, Option.elim_some, Raw.fields,
      find?_filterMap fun name => supply (.inside group name), if_pos named]

theorem section?_tree (supply : Slot → Option Raw) {group : String} {names : List String}
    (mem : (group, names) ∈ groups) :
    ∃ inner, (tree supply).section? group names = some inner
      ∧ ∀ name ∈ names, inner.find? name = supply (.inside group name) := by
  refine ⟨_, by rw [Raw.Fields.section?, find?_tree supply mem]; rfl, ?_⟩
  intro name among
  rw [find?_filterMap fun name => supply (.inside group name), if_pos among]

end Slot

end Latchkey

import Latchkey.Proofs.Toml.Names
import Latchkey.Settings.Layer
import Mathlib.Data.List.TakeWhile

set_option autoImplicit false

/-! # Slots in trees of raw settings

Every setting has its slot in the tree that sources are laid over one another in: a field of its own
or a field of a section. What is set at a path leaves a slot as it is or takes its place
(`Raw.Fields.at?_set_of_spares`, `Raw.Fields.at?_set_self`). Sources make up a tree without doubled
names, whose keys are no paths any more (`Raw.isTree_ofLayers`). Such a tree can be laid over others
itself, and says of a section, and of a slot, what it said before (`Raw.Fields.find?_lay_tree`,
`Raw.Fields.at?_lay_tree`). -/

namespace Latchkey

/-- The place of a setting in a tree. -/
inductive Slot
  /-- A field of its own. -/
  | alone (name : String)
  /-- A field of a section. -/
  | inside (group name : String)
deriving DecidableEq, Repr

namespace Raw

/-! ## Single values -/

/-- A value without parts. -/
def IsBare : Raw → Prop
  | .list _ | .table _ => False
  | _ => True

theorem isBare_text (content : String) : (text content).IsBare :=
  trivial

theorem isBare_ofPlainText (text : String) : (ofPlainText text).IsBare := by
  unfold ofPlainText
  dsimp only
  split
  · trivial
  · split
    · trivial
    · split
      · trivial
      · split <;> trivial

namespace IsBare

variable {raw : Raw}

theorem fields_eq_nil (bare : raw.IsBare) : raw.fields = [] := by
  cases raw with
  | table => cases bare
  | _ => rfl

theorem overlay_eq (bare : raw.IsBare) (old : Option Raw) : overlay old raw = raw := by
  cases raw with
  | table => cases bare
  | _ => simp [overlay]

end IsBare

/-- A table without fields. -/
def isEmptyTable : Raw → Bool
  | .table [] => true
  | _ => false

/-! ## Reading and writing at a slot -/

/-- What a tree says of a slot. -/
def Fields.at? (fields : Fields) : Slot → Option Raw
  | .alone name => fields.find? name
  | .inside group name => Fields.find? ((fields.find? group).elim [] Raw.fields) name

theorem Fields.at?_nil (slot : Slot) : Fields.at? [] slot = none := by
  cases slot <;> rfl

/-- Where a tree says something of a slot within a section, that is a table with this field. -/
theorem Fields.find?_of_at? {fields : Fields} {group name : String} {raw : Raw}
    (found : fields.at? (.inside group name) = some raw) :
    ∃ inner, fields.find? group = some (.table inner) ∧ Fields.find? inner name = some raw := by
  cases section? : fields.find? group with
  | none => simp [at?, section?, find?] at found
  | some raw' =>
    cases raw' with
    | table inner => exact ⟨inner, rfl, by simpa [at?, section?, Raw.fields] using found⟩
    | _ => simp [at?, section?, Raw.fields, find?] at found

end Raw

namespace Slot

open Raw

/-- The way to a slot. -/
def path : Slot → Path
  | .alone name => ⟨name, []⟩
  | .inside group name => ⟨group, [.field name]⟩

/-- Whatever is set at a path leaves a slot as it is: it goes elsewhere, or to another field of the
    section. -/
def spares (path : Path) : Slot → Bool
  | .alone name => path.first ≠ name
  | .inside group name =>
    path.first ≠ group || match path.steps with
      | .field other :: _ => other ≠ name
      | _ => false

theorem cases_of_spares {group name : String} {path : Path}
    (spared : (inside group name).spares path = true) :
    path.first ≠ group ∨ ∃ other more, path.steps = .field other :: more ∧ other ≠ name := by
  rcases Bool.or_eq_true_iff.1 spared with apart | apart
  · exact .inl (of_decide_eq_true apart)
  · split at apart
    · rename_i other more steps
      exact .inr ⟨other, more, steps, of_decide_eq_true apart⟩
    · cases apart

end Slot

namespace Raw.Fields

variable {slot : Slot} {path : Path} {value : Raw} {name : String}

theorem find?_set_of_ne (fields : Fields) (apart : path.first ≠ name) :
    (fields.set path value).find? name = fields.find? name := by
  rw [set, find?_put, if_neg (Ne.symm apart)]

theorem find?_lay_of_ne {layer : Layer} (fields : Fields)
    (apart : ∀ entry ∈ layer, (Path.ofKey entry.1).first ≠ name) :
    (fields.lay layer).find? name = fields.find? name := by
  induction layer generalizing fields with
  | nil => rfl
  | cons entry rest ih =>
    obtain ⟨first, others⟩ := List.forall_mem_cons.1 apart
    exact (ih _ others).trans (find?_set_of_ne fields first)

theorem at?_set_of_spares (fields : Fields) (spared : slot.spares path = true) :
    (fields.set path value).at? slot = fields.at? slot := by
  cases slot with
  | alone name => exact find?_set_of_ne fields (of_decide_eq_true spared)
  | inside group name =>
    obtain apart | ⟨other, more, steps, apart⟩ := Slot.cases_of_spares spared
    · rw [at?, at?, find?_set_of_ne fields apart]
    · by_cases same : group = path.first
      · subst same
        simp only [set, at?, find?_put, if_pos, Option.elim_some, steps, placed, Raw.fields,
          if_neg (Ne.symm apart)]
      · rw [at?, at?, find?_set_of_ne fields (Ne.symm same)]

theorem at?_set_self (fields : Fields) (bare : value.IsBare) :
    (fields.set slot.path value).at? slot = some value := by
  cases slot with
  | alone name => simp [set, at?, Slot.path, find?_put, placed, bare.overlay_eq]
  | inside group name =>
    simp [set, at?, Slot.path, find?_put, placed, Raw.fields, bare.overlay_eq]

end Raw.Fields

/-! ## Trees -/

namespace Raw

/-- Each name stands once in its table, here and in the tables of this one. -/
inductive Tidy : Raw → Prop
  | leaf (raw : Raw) (other : ∀ fields, raw ≠ .table fields) : Tidy raw
  | table (fields : Fields) (distinct : (fields.map (·.1)).Nodup)
      (each : ∀ field ∈ fields, Tidy field.2) : Tidy (.table fields)

/-- Each name stands once among the fields, and in every table in them. -/
structure Fields.Tidy (fields : Fields) : Prop where
  distinct : (fields.map (·.1)).Nodup
  each : ∀ field ∈ fields, field.2.Tidy

theorem Fields.tidy_nil : Fields.Tidy [] :=
  ⟨List.nodup_nil, by nofun⟩

theorem Tidy.fields {raw : Raw} (tidy : raw.Tidy) : raw.fields.Tidy := by
  cases tidy with
  | leaf raw other =>
    cases raw with
    | table fields => exact absurd rfl (other fields)
    | _ => exact Fields.tidy_nil
  | table fields distinct each => exact ⟨distinct, each⟩

theorem tidy_of_plain {raw : Raw} (plain : raw.Plain) : raw.Tidy := by
  induction plain with
  | table fields distinct _ ih => exact .table fields distinct ih
  | _ => exact .leaf _ nofun

theorem mem_names_put {fields : Fields} {name other : String} {value : Raw}
    (mem : other ∈ (fields.put name value).map (·.1)) : other = name ∨ other ∈ fields.map (·.1) := by
  induction fields with
  | nil => exact .inl (List.mem_singleton.1 mem)
  | cons field rest ih =>
    obtain ⟨first, old⟩ := field
    unfold Fields.put at mem
    split at mem
    · exact (List.mem_cons.1 mem).imp id fun mem => List.mem_cons_of_mem _ mem
    · obtain rfl | mem := List.mem_cons.1 mem
      · exact .inr List.mem_cons_self
      · exact (ih mem).imp id fun mem => List.mem_cons_of_mem _ mem

theorem Fields.Tidy.put {fields : Fields} {name : String} {value : Raw} (tidy : fields.Tidy)
    (tidyValue : value.Tidy) : (fields.put name value).Tidy := by
  induction fields with
  | nil => exact ⟨List.nodup_singleton _, by simpa [Fields.put] using tidyValue⟩
  | cons field rest ih =>
    obtain ⟨first, old⟩ := field
    obtain ⟨fresh, distinct⟩ := List.nodup_cons.1 tidy.distinct
    obtain ⟨here, others⟩ := List.forall_mem_cons.1 tidy.each
    unfold Fields.put
    split
    · rename_i same
      subst same
      exact ⟨List.nodup_cons.2 ⟨fresh, distinct⟩, List.forall_mem_cons.2 ⟨tidyValue, others⟩⟩
    · rename_i apart
      obtain ⟨distinct', each'⟩ := ih ⟨distinct, others⟩
      refine ⟨List.nodup_cons.2 ⟨fun mem => ?_, distinct'⟩, List.forall_mem_cons.2 ⟨here, each'⟩⟩
      exact (mem_names_put mem).elim (fun same => apart same.symm) fresh

theorem Fields.Tidy.of_find? {fields : Fields} {name : String} {raw : Raw} (tidy : fields.Tidy)
    (found : fields.find? name = some raw) : raw.Tidy := by
  induction fields with
  | nil => cases found
  | cons field rest ih =>
    obtain ⟨here, others⟩ := List.forall_mem_cons.1 tidy.each
    unfold Fields.find? at found
    split at found
    · obtain rfl := Option.some.inj found
      exact here
    · exact ih ⟨(List.nodup_cons.1 tidy.distinct).2, others⟩ found

theorem Fields.Tidy.of_elim {old : Option Raw} (tidy : ∀ raw, old = some raw → raw.Tidy) :
    Fields.Tidy (old.elim [] Raw.fields) := by
  cases old with
  | none => exact tidy_nil
  | some raw => exact (tidy raw rfl).fields

mutual

/-- Whatever is laid over a tidy value, what comes of it is tidy. -/
theorem tidy_overlay (old : Option Raw) (tidy : ∀ raw, old = some raw → raw.Tidy) :
    (value : Raw) → (overlay old value).Tidy
  | .table [] => by
    cases old with
    | none => exact .table [] List.nodup_nil nofun
    | some raw => exact tidy raw rfl
  | .table (field :: more) =>
    have laid := tidy_overlayFields _ (Fields.Tidy.of_elim tidy) (field :: more)
    .table _ laid.distinct laid.each
  | .null => .leaf _ nofun
  | .bool _ => .leaf _ nofun
  | .integer _ => .leaf _ nofun
  | .float _ => .leaf _ nofun
  | .text _ => .leaf _ nofun
  | .list _ => .leaf _ nofun

theorem tidy_overlayFields (old : Fields) (tidy : old.Tidy) :
    (fields : List (String × Raw)) → (overlayFields old fields).Tidy
  | [] => tidy
  | (name, value) :: rest =>
    tidy_overlayFields _
      (tidy.put (tidy_overlay (old.find? name) (fun _ => tidy.of_find?) value)) rest

end

theorem tidy_placed (value : Raw) (steps : List Step) {old : Option Raw}
    (tidy : ∀ raw, old = some raw → raw.Tidy) : (placed value steps old).Tidy := by
  induction steps generalizing old with
  | nil => exact tidy_overlay old tidy value
  | cons step more ih =>
    cases step with
    | field name =>
      have inner := Fields.Tidy.of_elim tidy
      have put : (Fields.put (old.elim [] Raw.fields) name
          (placed value more (Fields.find? (old.elim [] Raw.fields) name))).Tidy :=
        inner.put (ih fun _ => inner.of_find?)
      exact .table _ put.distinct put.each
    | element index => exact .leaf _ nofun

/-! ## Laying a tree over others -/

theorem Fields.find?_of_fresh {fields : Fields} {name : String}
    (fresh : name ∉ fields.map (·.1)) : fields.find? name = none := by
  induction fields with
  | nil => rfl
  | cons field rest ih =>
    obtain ⟨apart, fresh⟩ := not_or.1 fun mem => fresh (List.mem_cons.2 mem)
    exact (if_neg apart).trans (ih fresh)

theorem Fields.put_of_fresh {fields : Fields} {name : String} (fresh : name ∉ fields.map (·.1))
    (value : Raw) : fields.put name value = fields ++ [(name, value)] := by
  induction fields with
  | nil => rfl
  | cons field rest ih =>
    obtain ⟨apart, fresh⟩ := not_or.1 fun mem => fresh (List.mem_cons.2 mem)
    exact (if_neg apart).trans (congrArg _ (ih fresh))

/-- Fields with new names follow those that are there. -/
theorem overlayFields_of_fresh {old : Fields} {fields : List (String × Raw)}
    (distinct : ((old ++ fields).map (·.1)).Nodup)
    (same : ∀ field ∈ fields, overlay none field.2 = field.2) :
    overlayFields old fields = old ++ fields := by
  induction fields generalizing old with
  | nil => exact (List.append_nil old).symm
  | cons field rest ih =>
    obtain ⟨name, value⟩ := field
    obtain ⟨here, others⟩ := List.forall_mem_cons.1 same
    have fresh : name ∉ old.map (·.1) := by
      rw [List.map_append] at distinct
      obtain ⟨-, -, apart⟩ := List.nodup_append.1 distinct
      exact fun mem => apart name mem name List.mem_cons_self rfl
    rw [overlayFields, Fields.find?_of_fresh fresh, here, Fields.put_of_fresh fresh, ih _ others]
    · simp
    · simpa using distinct

/-- A tidy value is the same after it was laid over nothing. -/
theorem Tidy.overlay_none {raw : Raw} (tidy : raw.Tidy) : overlay none raw = raw := by
  induction tidy with
  | leaf raw other =>
    cases raw with
    | table fields => exact absurd rfl (other fields)
    | _ => simp [overlay]
  | table fields distinct _ ih =>
    cases fields with
    | nil => rfl
    | cons field more =>
      have same : overlayFields [] (field :: more) = field :: more :=
        overlayFields_of_fresh distinct ih
      exact congrArg Raw.table same

/-- What a source says, over what was implied: a table without fields gives way. -/
def merged (implied said : Option Raw) : Option Raw :=
  match said with
  | some raw => if raw.isEmptyTable then implied <|> some raw else some raw
  | none => implied

theorem IsBare.merged_eq {raw : Raw} (bare : raw.IsBare) (implied : Option Raw) :
    merged implied (some raw) = some raw := by
  cases raw with
  | table => cases bare
  | _ => rfl

theorem merged_none (said : Option Raw) : merged none said = said := by
  cases said with
  | none => rfl
  | some raw => exact ite_self _

/-- A tidy value replaces a single one, unless it gives way to that. -/
theorem Tidy.overlay_eq_merged {raw : Raw} (tidy : raw.Tidy) {old : Option Raw}
    (bare : ∀ raw, old = some raw → raw.IsBare) : some (overlay old raw) = merged old (some raw) := by
  have noFields : old.elim [] Raw.fields = [] := by
    cases old with
    | none => rfl
    | some raw => exact (bare raw rfl).fields_eq_nil
  cases raw with
  | table fields =>
    cases fields with
    | nil => cases old <;> rfl
    | cons field more =>
      have same := tidy.overlay_none
      rw [overlay] at same ⊢
      rw [noFields]
      exact congrArg some same
  | _ => simp [overlay, merged, isEmptyTable]

/-- Fields laid over others are laid over what is there under the same name. -/
theorem find?_overlayFields (old : Fields) {fields : List (String × Raw)}
    (distinct : (fields.map (·.1)).Nodup) (name : String) :
    (overlayFields old fields).find? name
      = match Fields.find? fields name with
        | some raw => some (overlay (old.find? name) raw)
        | none => old.find? name := by
  induction fields generalizing old with
  | nil => rfl
  | cons field rest ih =>
    obtain ⟨other, value⟩ := field
    obtain ⟨fresh, distinct⟩ := List.nodup_cons.1 distinct
    rw [overlayFields, ih _ distinct, Fields.find?_put, Fields.find?]
    by_cases same : name = other
    · subst same
      rw [if_pos rfl, Fields.find?_of_fresh fresh, if_pos rfl]
    · rw [if_neg same, if_neg same]

namespace Path

theorem name?_first {text rest : List Char} {name : String} (named : name? text = some (name, rest)) :
    name? name.toList = some (name, []) := by
  unfold name? at named
  dsimp only at named
  split at named
  · cases named
  · rename_i full
    obtain ⟨rfl, -⟩ := Prod.mk.inj (Option.some.inj named)
    have within : ∀ c ∈ text.takeWhile isNameChar, isNameChar c = true :=
      List.all_eq_true.1 (List.all_takeWhile)
    have again := List.takeWhile_eq_self_iff.2 within
    have done := List.dropWhile_eq_nil_iff.2 within
    rw [String.toList_ofList, name?, again, if_neg full, done]

/-- The first name in a path is a whole path. -/
theorem ofKey_first (key : String) : ofKey (ofKey key).first = ⟨(ofKey key).first, []⟩ := by
  cases parsed : parse? key with
  | none => simp [ofKey, parsed]
  | some path =>
    simp only [ofKey, parsed, Option.getD_some]
    simp only [parse?, bind, Option.bind_eq_some_iff] at parsed
    obtain ⟨⟨first, rest⟩, named, steps, -, same⟩ := parsed
    obtain rfl := Option.some.inj same
    have whole : parse? first = some ⟨first, []⟩ := by
      rw [parse?, name?_first named]
      rfl
    rw [whole, Option.getD_some]

end Path

/-- Tidy fields under names that are no paths, as sources make them up. -/
structure Fields.IsTree (fields : Fields) : Prop where
  tidy : fields.Tidy
  names : ∀ field ∈ fields, Path.ofKey field.1 = ⟨field.1, []⟩

namespace Fields

variable {fields tree : Fields} {slot : Slot}

theorem IsTree.set (isTree : fields.IsTree) (key : String) (value : Raw) :
    (fields.set (Path.ofKey key) value).IsTree := by
  refine ⟨isTree.tidy.put (tidy_placed _ _ fun _ => isTree.tidy.of_find?), ?_⟩
  intro field mem
  obtain same | mem := mem_names_put (List.mem_map_of_mem mem)
  · rw [same, Path.ofKey_first]
  · obtain ⟨other, among, same⟩ := List.mem_map.1 mem
    rw [← same, isTree.names other among]

theorem IsTree.lay (isTree : fields.IsTree) (layer : Layer) : (fields.lay layer).IsTree := by
  induction layer generalizing fields with
  | nil => exact isTree
  | cons entry rest ih => exact ih (isTree.set entry.1 entry.2)

/-- A tree is laid over others as a table is. -/
theorem lay_eq_overlayFields {layer : Layer}
    (names : ∀ entry ∈ layer, Path.ofKey entry.1 = ⟨entry.1, []⟩) (fields : Fields) :
    fields.lay layer = overlayFields fields layer := by
  induction layer generalizing fields with
  | nil => rfl
  | cons entry rest ih =>
    obtain ⟨key, value⟩ := entry
    obtain ⟨here, others⟩ := List.forall_mem_cons.1 names
    have first : fields.lay ((key, value) :: rest)
        = (fields.set (Path.ofKey key) value).lay rest := rfl
    rw [first, here, ih others, overlayFields]
    rfl

theorem find?_lay_tree (fields : Fields) (isTree : tree.IsTree) (name : String) :
    (fields.lay tree).find? name
      = match tree.find? name with
        | some raw => some (overlay (fields.find? name) raw)
        | none => fields.find? name := by
  rw [lay_eq_overlayFields isTree.names]
  exact find?_overlayFields fields isTree.tidy.distinct name

/-- What a tree says of a slot counts more than the single value that was there. This takes a tree
    in which the section of the slot is a table. -/
theorem at?_lay_tree (isTree : tree.IsTree)
    (bare : ∀ raw, fields.at? slot = some raw → raw.IsBare)
    (isTable : ∀ group name raw, slot = .inside group name → tree.find? group = some raw →
      ∃ inner, raw = .table inner) :
    (fields.lay tree).at? slot = merged (fields.at? slot) (tree.at? slot) := by
  cases slot with
  | alone name =>
    simp only [at?, find?_lay_tree fields isTree]
    cases found : tree.find? name with
    | none => rfl
    | some raw => exact (isTree.tidy.of_find? found).overlay_eq_merged bare
  | inside group name =>
    simp only [at?, find?_lay_tree fields isTree]
    cases found : tree.find? group with
    | none => rfl
    | some raw =>
      obtain ⟨inner, rfl⟩ := isTable group name raw rfl found
      have tidy : Fields.Tidy inner := (isTree.tidy.of_find? found).fields
      have laid : (overlay (fields.find? group) (.table inner)).fields
          = overlayFields ((fields.find? group).elim [] Raw.fields) inner := by
        cases inner with
        | nil => cases fields.find? group <;> rfl
        | cons => rfl
      simp only [Option.elim_some, laid]
      rw [find?_overlayFields _ tidy.distinct]
      simp only [Raw.fields]
      cases said : Fields.find? inner name with
      | none => rfl
      | some raw => exact (tidy.of_find? said).overlay_eq_merged bare

end Fields

/-- Sources make up a tree. -/
theorem isTree_ofLayers (layers : List Layer) : (ofLayers layers).IsTree := by
  unfold ofLayers
  have laid (fields : Fields) (isTree : fields.IsTree) :
      (layers.foldl Fields.lay fields).IsTree := by
    induction layers generalizing fields with
    | nil => exact isTree
    | cons layer rest ih => exact ih _ (isTree.lay layer)
  exact laid [] ⟨Fields.tidy_nil, nofun⟩

/-- A plain source without paths among its keys is a tree as it stands. -/
theorem ofLayers_of_plain {layer : Layer} (plain : Fields.Plain layer)
    (names : ∀ entry ∈ layer, Path.ofKey entry.1 = ⟨entry.1, []⟩) : ofLayers [layer] = layer := by
  have same : Fields.lay [] layer = layer := by
    rw [Fields.lay_eq_overlayFields names]
    exact overlayFields_of_fresh plain.distinct fun field mem =>
      (tidy_of_plain (plain.each field mem)).overlay_none
  exact same

end Raw

end Latchkey

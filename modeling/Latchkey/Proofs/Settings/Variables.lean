import Latchkey.Proofs.Settings.Sections
import Latchkey.Settings.Sources

set_option autoImplicit false

/-! # Variables of settings

Each setting has a variable, whose name is that of its slot in capitals. Variables that are set once
say of each slot what its own variable says, whatever lies below (`Sources.at?_lay_ofVariables`), and
leave the sections alone of which they set no field. What an environment implies lies at the bottom:
its own name, and how it logs (`Environment.at?_ofEnvironment`). -/

namespace Latchkey

open Raw (Path)

namespace Slot

/-! ## Keys and names of variables -/

/-- The key by which sources set a slot. -/
def key : Slot → String
  | .alone name => name
  | .inside group name => group ++ "." ++ name

/-- A text in capitals, as far as that is ASCII. -/
def capitals (text : String) : String :=
  String.ofList (text.toList.map Char.toUpper)

/-- The name of the variable that sets a slot. -/
def variableName (slot : Slot) : String :=
  let start := Sources.variableRoot ++ Sources.variableSeparator
  match slot with
  | .alone name => start ++ capitals name
  | .inside group name => start ++ capitals group ++ Sources.variableSeparator ++ capitals name

variable {slot other : Slot}

theorem ofKey_key : ∀ slot ∈ all, Path.ofKey slot.key = slot.path := by
  decide +kernel

theorem keyOfVariable?_variableName :
    ∀ slot ∈ all, Sources.keyOfVariable? slot.variableName = some slot.key := by
  decide +kernel

/-- No setting has the name of a section. -/
theorem apart {name group field : String} (known : alone name ∈ all)
    (known' : inside group field ∈ all) : group ≠ name := by
  have apart : ∀ slot ∈ all, ∀ other ∈ all, slot.path.first = other.path.first →
      slot.path.steps.isEmpty = other.path.steps.isEmpty := by decide +kernel
  intro same
  cases apart _ known' _ known same

theorem path_injective (same : slot.path = other.path) : slot = other := by
  cases slot <;> cases other <;> simp_all [path]

theorem eq_of_variableName_eq (known : slot ∈ all) (known' : other ∈ all)
    (same : slot.variableName = other.variableName) : slot = other := by
  have keys : slot.key = other.key := by
    have keys := congrArg Sources.keyOfVariable? same
    rw [keyOfVariable?_variableName slot known, keyOfVariable?_variableName other known'] at keys
    exact Option.some.inj keys
  refine path_injective ?_
  rw [← ofKey_key slot known, ← ofKey_key other known', keys]

example : (Slot.inside "token" "refresh_token_ttl").variableName
    = "KEYSTONE__TOKEN__REFRESH_TOKEN_TTL" := by decide +kernel

/-- A value that is set at one slot leaves the others as they are. -/
theorem spares_path (known : slot ∈ all) (known' : other ∈ all) (ne : slot ≠ other) :
    slot.spares other.path = true := by
  cases slot with
  | alone name =>
    cases other with
    | alone name' => exact decide_eq_true fun names => ne (congrArg _ names.symm)
    | inside group' name' => exact decide_eq_true (apart known known')
  | inside group name =>
    cases other with
    | alone name' =>
      exact Bool.or_eq_true_iff.2 (.inl (decide_eq_true (apart known' known).symm))
    | inside group' name' =>
      by_cases same : group' = group
      · subst same
        have fields : name' ≠ name := fun names => ne (congrArg _ names.symm)
        exact Bool.or_eq_true_iff.2 (.inr (decide_eq_true fields))
      · exact Bool.or_eq_true_iff.2 (.inl (decide_eq_true same))

end Slot

/-! ## Variables -/

namespace Sources

open Slot

variable {slot : Slot} {bindings : List (String × String)}

/-- What the variables say of a slot. -/
def bound? (bindings : List (String × String)) (slot : Slot) : Option Raw :=
  (bindings.lookup slot.variableName).map Raw.ofPlainText

/-- Each variable is set once, and those that do not have the name of a slot leave it as it is. -/
structure SetOnce (bindings : List (String × String)) (slot : Slot) : Prop where
  distinct : (bindings.map (·.1)).Nodup
  spared : ∀ binding ∈ bindings, binding.1 = slot.variableName
    ∨ ∀ key, keyOfVariable? binding.1 = some key → slot.spares (Path.ofKey key) = true

theorem SetOnce.tail {binding : String × String} (once : SetOnce (binding :: bindings) slot) :
    SetOnce bindings slot :=
  ⟨(List.nodup_cons.1 once.distinct).2, (List.forall_mem_cons.1 once.spared).2⟩

/-- Each variable is set once, and those that concern the program are variables of settings. -/
structure Orderly (bindings : List (String × String)) : Prop where
  distinct : (bindings.map (·.1)).Nodup
  known : ∀ binding ∈ bindings,
    keyOfVariable? binding.1 = none ∨ ∃ slot ∈ Slot.all, binding.1 = slot.variableName

theorem Orderly.setOnce (orderly : Orderly bindings) (known : slot ∈ all) :
    SetOnce bindings slot := by
  refine ⟨orderly.distinct, ?_⟩
  intro binding mem
  obtain foreign | ⟨other, known', own⟩ := orderly.known binding mem
  · exact .inr fun key sets => by simp [foreign] at sets
  · by_cases same : slot = other
    · subst same
      exact .inl own
    · refine .inr fun key sets => ?_
      rw [own, keyOfVariable?_variableName other known'] at sets
      obtain rfl := Option.some.inj sets
      rw [ofKey_key other known']
      exact spares_path known known' same

/-- What a tree says of a slot after the variables were laid over it. -/
theorem at?_lay_ofVariables (known : slot ∈ all) (once : SetOnce bindings slot)
    (fields : Raw.Fields) :
    (fields.lay (ofVariables bindings)).at? slot
      = (bound? bindings slot <|> fields.at? slot) := by
  induction bindings generalizing fields with
  | nil => rfl
  | cons binding rest ih =>
    have ih := ih once.tail
    have fresh := (List.nodup_cons.1 once.distinct).1
    have first := (List.forall_mem_cons.1 once.spared).1
    obtain ⟨name, text⟩ := binding
    have laid : fields.lay (ofVariables ((name, text) :: rest))
        = ((keyOfVariable? name).elim fields fun key =>
            fields.set (Path.ofKey key) (Raw.ofPlainText text)).lay (ofVariables rest) := by
      cases sets : keyOfVariable? name <;> simp [ofVariables, Raw.Fields.lay, sets]
    rw [laid, ih]
    by_cases own : name = slot.variableName
    · subst own
      have gone : rest.lookup slot.variableName = none := by
        refine List.lookup_eq_none_iff.2 ?_
        rintro ⟨name, text⟩ mem
        refine bne_iff_ne.2 ?_
        rintro rfl
        exact fresh (List.mem_map.2 ⟨_, mem, rfl⟩)
      rw [keyOfVariable?_variableName slot known, Option.elim_some, ofKey_key slot known,
        fields.at?_set_self (Raw.isBare_ofPlainText text)]
      simp [bound?, gone]
    · have spared := first.resolve_left own
      have passed : slot.variableName ≠ name := Ne.symm own
      have same : bound? ((name, text) :: rest) slot = bound? rest slot := by
        simp [bound?, List.lookup_cons, beq_false_of_ne passed]
      rw [same]
      cases sets : keyOfVariable? name with
      | none => rfl
      | some key => rw [Option.elim_some, fields.at?_set_of_spares (spared key sets)]

/-- The variables leave a section alone of which they set no field. -/
theorem find?_lay_ofVariables {group : String} {names : List String}
    (mem : (group, names) ∈ groups) (orderly : Orderly bindings)
    (unset : ∀ name ∈ names, bound? bindings (.inside group name) = none) (fields : Raw.Fields) :
    (fields.lay (ofVariables bindings)).find? group = fields.find? group := by
  refine fields.find?_lay_of_ne fun entry among => ?_
  obtain ⟨⟨name, text⟩, binds, sets⟩ := List.mem_filterMap.1 among
  obtain ⟨key, isKey, rfl⟩ := Option.map_eq_some_iff.1 sets
  obtain foreign | ⟨slot, known, own⟩ := orderly.known _ binds
  · simp [foreign] at isKey
  · obtain rfl : name = slot.variableName := own
    rw [keyOfVariable?_variableName slot known] at isKey
    obtain rfl := Option.some.inj isKey
    rw [ofKey_key slot known]
    cases slot with
    | alone name =>
      have inhabited : ∀ entry ∈ groups, entry.2 ≠ [] := by decide
      obtain ⟨field, first⟩ := List.exists_mem_of_ne_nil names (inhabited _ mem)
      exact Ne.symm (apart known (inside_mem_all mem first))
    | inside group' name =>
      intro same
      obtain rfl : group' = group := same
      have among := (mem_namesOf known).2
      rw [namesOf_of_mem mem] at among
      have lost := Option.map_eq_none_iff.1 (unset name among)
      exact absurd rfl (bne_iff_ne.1 (List.lookup_eq_none_iff.1 lost _ binds))

end Sources

/-! ## What an environment implies -/

namespace Environment

open Slot

/-- What an environment implies for a slot. -/
def implied (e : Environment) (slot : Slot) : Option Raw :=
  if slot = .alone "environment" then some (.text e.toText)
  else if slot = .inside "logging" "level" then some (.text e.logging.level)
  else if slot = .inside "logging" "format" then some (.text e.logging.format.toText)
  else none

theorem isBare_of_implied {e : Environment} {slot : Slot} {raw : Raw}
    (implies : e.implied slot = some raw) : raw.IsBare := by
  unfold implied at implies
  split at implies
  · obtain rfl := Option.some.inj implies
    exact Raw.isBare_text _
  · split at implies
    · obtain rfl := Option.some.inj implies
      exact Raw.isBare_text _
    · split at implies
      · obtain rfl := Option.some.inj implies
        exact Raw.isBare_text _
      · cases implies

theorem ofLayers_ofEnvironment (e : Environment) :
    Raw.ofLayers [Sources.ofEnvironment e]
      = [("environment", .text e.toText),
        ("logging", .table [("level", .text e.logging.level),
          ("format", .text e.logging.format.toText)])] := by
  have environment : Path.ofKey "environment" = ⟨"environment", []⟩ :=
    ofKey_key (.alone "environment") (by decide)
  have level : Path.ofKey "logging.level" = ⟨"logging", [.field "level"]⟩ :=
    ofKey_key (.inside "logging" "level") (by decide)
  have format : Path.ofKey "logging.format" = ⟨"logging", [.field "format"]⟩ :=
    ofKey_key (.inside "logging" "format") (by decide)
  simp [Raw.ofLayers, Raw.Fields.lay, Sources.ofEnvironment, environment, level, format,
    Raw.Fields.set, Raw.Fields.put, Raw.placed, Raw.Fields.find?, Raw.overlay, Raw.fields]

theorem at?_ofEnvironment (e : Environment) {slot : Slot} (known : slot ∈ all) :
    (Raw.ofLayers [Sources.ofEnvironment e]).at? slot = e.implied slot := by
  rw [ofLayers_ofEnvironment]
  cases slot with
  | alone name =>
    have inside : Slot.inside "logging" "level" ∈ all := by decide
    have apart : "logging" ≠ name := apart known inside
    by_cases same : name = "environment" <;>
      simp [Raw.Fields.at?, Raw.Fields.find?, implied, same, Ne.symm apart]
  | inside group name =>
    have apart : group ≠ "environment" := apart (by decide) known
    by_cases same : group = "logging"
    · subst same
      by_cases level : name = "level" <;> by_cases format : name = "format" <;>
        simp [Raw.Fields.at?, Raw.Fields.find?, Raw.fields, implied, level, format]
    · simp [Raw.Fields.at?, Raw.Fields.find?, implied, same, apart]

end Environment

end Latchkey

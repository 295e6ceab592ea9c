import Latchkey.Proofs.Decimal.Numeral
import Latchkey.Proofs.Settings.Layering

set_option autoImplicit false

/-! # Texts out of variables

The values of variables have no notation for kinds of values, so that a text that could be a truth
value or a number is read as one, even where a setting wants a text. The setting then takes what the
value prints as (`Sources.takes_texts_as_they_print`). Whether that is the text that was set depends
on how the value was written (`Raw.IsRespelled`), and texts that cannot be numbers are taken as they
are. -/

namespace Latchkey

namespace Raw

/-! ## Reading a plain text -/

variable {text : String}

/-- A word that stands for a truth value or for a number that is not finite. -/
def isWord (text : String) : Bool :=
  ["true", "false"].contains (String.ofList (lower text)) || Numeral.isWord text.toList

/-- Whether a text is read as a number. -/
def readsNumber (text : String) : Bool :=
  match ofPlainText text with
  | .integer _ | .float _ => true
  | _ => false

/-- A text is read as a value that prints otherwise: as a truth value out of a word with capitals,
    an integer with a plus, superfluous zeros or a negative zero, or a double that is not written in
    the way that doubles print. -/
def IsRespelled (text : String) : Prop :=
  match ofPlainText text with
  | .bool _ => text ≠ "true" ∧ text ≠ "false"
  | .integer _ => Numeral.isPlainInteger text.toList = false
  | .float x => x.toPlainText ≠ text
  | _ => False

/-- The ways to read a text. -/
theorem ofPlainText_cases (text : String) :
    (∃ value, ofPlainText text = .bool value
      ∧ String.ofList (lower text) = if value then "true" else "false")
    ∨ (∃ n, ofPlainText text = .integer n ∧ Numeral.integer? text.toList = some n)
    ∨ (∃ x, ofPlainText text = .float x ∧ Numeral.double? text.toList = some x)
    ∨ ofPlainText text = .text text := by
  unfold ofPlainText
  dsimp only
  split
  · rename_i word
    exact .inl ⟨true, rfl, word⟩
  · split
    · rename_i word
      exact .inl ⟨false, rfl, word⟩
    · split
      · rename_i n integer
        exact .inr (.inl ⟨n, rfl, integer⟩)
      · split
        · rename_i x double
          exact .inr (.inr (.inl ⟨x, rfl, double⟩))
        · exact .inr (.inr (.inr rfl))

/-- A text is taken as it was set if and only if it is not respelled. -/
theorem text?_ofPlainText (text : String) :
    ∃ printed, (ofPlainText text).text? = some printed ∧ (printed = text ↔ ¬ IsRespelled text) := by
  rcases ofPlainText_cases text with ⟨value, read, word⟩ | ⟨n, read, integer⟩ | ⟨x, read, -⟩ | read
  · refine ⟨if value then "true" else "false", by rw [read]; rfl, ?_⟩
    have words : ¬ IsRespelled text ↔ text = "true" ∨ text = "false" := by
      simp only [IsRespelled, read]
      tauto
    rw [words]
    constructor
    · rintro rfl
      cases value
      · exact .inr rfl
      · exact .inl rfl
    · rintro (rfl | rfl)
      · exact word.symm.trans (by decide)
      · exact word.symm.trans (by decide)
  · refine ⟨toString n, by rw [read]; rfl, ?_⟩
    simp only [IsRespelled, read, Bool.not_eq_false]
    exact Numeral.toString_eq_iff integer
  · refine ⟨x.toPlainText, by rw [read]; rfl, ?_⟩
    simp only [IsRespelled, read, ne_eq, not_not]
  · refine ⟨text, by rw [read]; rfl, ?_⟩
    simp only [IsRespelled, read, not_false_eq_true]

/-- A text with a character that no number has is read as a text, unless it is a word. -/
theorem ofPlainText_eq_text (noWord : isWord text = false)
    (beyond : ∃ c ∈ text.toList, Numeral.isNumberChar c = false) :
    ofPlainText text = .text text := by
  obtain ⟨c, mem, beyond⟩ := beyond
  obtain ⟨noTruth, noWord⟩ := Bool.or_eq_false_iff.1 noWord
  have noNumber : text.toList.all Numeral.isNumberChar ≠ true := by
    intro all
    exact Bool.noConfusion ((List.all_eq_true.1 all c mem).symm.trans beyond)
  rcases ofPlainText_cases text with ⟨value, -, word⟩ | ⟨n, -, read⟩ | ⟨x, -, read⟩ | read
  · rw [word] at noTruth
    cases value <;> exact absurd noTruth (by decide)
  · exact absurd (Numeral.spelling_of_integer? read) noNumber
  · rcases Numeral.spelling_of_double? read with word | all
    · exact Bool.noConfusion (word.symm.trans noWord)
    · exact absurd all noNumber
  · exact read

/-- A number that is written with a plus or an exponent prints otherwise. -/
theorem isRespelled_of_readsNumber (number : readsNumber text = true)
    (letter : ∃ c ∈ text.toList, Numeral.isPlainChar c = false) : IsRespelled text := by
  obtain ⟨c, mem, letter⟩ := letter
  have spelled : text.toList.all Numeral.isPlainChar ≠ true := by
    intro all
    exact Bool.noConfusion ((List.all_eq_true.1 all c mem).symm.trans letter)
  unfold readsNumber at number
  rcases ofPlainText_cases text with ⟨value, read, -⟩ | ⟨n, read, integer⟩ | ⟨x, read, -⟩ | read
  · rw [read] at number
    cases number
  · simp only [IsRespelled, read]
    rw [← Bool.not_eq_true, ← Numeral.toString_eq_iff integer]
    rintro rfl
    exact spelled (Numeral.plain_toString n)
  · simp only [IsRespelled, read]
    rintro rfl
    exact spelled x.plain_toPlainText
  · rw [read] at number
    cases number

end Raw

/-! ## Settings that are texts -/

/-- The slots that texts are taken from, and where they go. -/
def Slot.texts : List (Slot × (Settings → String)) :=
  [(.inside "token" "issuer", (·.token.issuer)), (.inside "token" "audience", (·.token.audience)),
    (.inside "database" "url", (·.database.url)),
    (.inside "scheduler" "test_task_prefix", (·.scheduler.testTaskPrefix)),
    (.inside "logging" "level", (·.logging.level))]

theorem Raw.Fields.orElse?_of_find? {α : Type} {fields : Raw.Fields} {name : String} {raw : Raw}
    (found : fields.find? name = some raw) (take : Raw → Option α) (default : α) :
    fields.orElse? name take default = take raw := by
  rw [Raw.Fields.orElse?, found]

/-- A text in a section is taken from the field of its name. -/
theorem Raw.Fields.text_of_at? {α : Type} {fields : Raw.Fields} {group name text default : String}
    {raw : Raw} {take : Raw → Option α} {missing inner : α}
    (texts : ∀ table, take (.table table) = some inner →
      Raw.Fields.orElse? table name Raw.text? default = some text)
    (taken : fields.orElse? group take missing = some inner)
    (found : fields.at? (.inside group name) = some raw) : raw.text? = some text := by
  obtain ⟨table, outer, field⟩ := Raw.Fields.find?_of_at? found
  rw [Raw.Fields.orElse?_of_find? outer] at taken
  have text := texts table taken
  rw [Raw.Fields.orElse?_of_find? field] at text
  exact text

section

variable {fields : Raw.Fields}

theorem TokenSettings.texts_of_ofRaw? {token : TokenSettings}
    (taken : TokenSettings.ofRaw? (.table fields) = some token) :
    fields.orElse? "issuer" Raw.text? "keystone" = some token.issuer
      ∧ fields.orElse? "audience" Raw.text? "keystone-api" = some token.audience := by
  simp only [ofRaw?, Raw.section?, bind, pure, Option.bind_eq_some_iff, Option.some.injEq] at taken
  obtain ⟨_, rfl, _, issuer, _, audience, _, -, rfl⟩ := taken
  exact ⟨issuer, audience⟩

theorem DatabaseSettings.url_of_ofRaw? {database : DatabaseSettings}
    (taken : DatabaseSettings.ofRaw? (.table fields) = some database) :
    fields.orElse? "url" Raw.text? ({} : DatabaseSettings).url = some database.url := by
  simp only [ofRaw?, Raw.section?, bind, pure, Option.bind_eq_some_iff, Option.some.injEq] at taken
  obtain ⟨_, rfl, _, url, _, -, _, -, _, -, _, -, _, -, rfl⟩ := taken
  exact url

theorem SchedulerSettings.prefix_of_ofRaw? {scheduler : SchedulerSettings}
    (taken : SchedulerSettings.ofRaw? (.table fields) = some scheduler) :
    fields.orElse? "test_task_prefix" Raw.text? "test-" = some scheduler.testTaskPrefix := by
  simp only [ofRaw?, Raw.section?, bind, pure, Option.bind_eq_some_iff, Option.some.injEq] at taken
  obtain ⟨_, rfl, _, -, _, -, _, -, _, -, _, start, _, -, rfl⟩ := taken
  exact start

theorem LoggingSettings.level_of_ofRaw? {logging : LoggingSettings}
    (taken : LoggingSettings.ofRaw? (.table fields) = some logging) :
    fields.orElse? "level" Raw.text? "info" = some logging.level := by
  simp only [ofRaw?, Raw.section?, bind, pure, Option.bind_eq_some_iff, Option.some.injEq] at taken
  obtain ⟨_, rfl, _, level, _, -, rfl⟩ := taken
  exact level

/-- A setting that is a text is what the raw value at its slot is taken for. -/
theorem Settings.text_of_ofFields? {slot : Slot} {field : Settings → String}
    (mem : (slot, field) ∈ Slot.texts) {settings : Settings} {raw : Raw}
    (taken : Settings.ofFields? fields = some settings) (found : fields.at? slot = some raw) :
    raw.text? = some (field settings) := by
  simp only [ofFields?, bind, pure, Option.bind_eq_some_iff, Option.some.injEq] at taken
  obtain ⟨_, -, _, database, _, token, _, -, _, scheduler, _, logging, rfl⟩ := taken
  simp only [Slot.texts, List.mem_cons, Prod.mk.injEq, List.not_mem_nil, or_false] at mem
  rcases mem with ⟨rfl, rfl⟩ | ⟨rfl, rfl⟩ | ⟨rfl, rfl⟩ | ⟨rfl, rfl⟩ | ⟨rfl, rfl⟩
  · exact Raw.Fields.text_of_at? (fun _ issuer => (TokenSettings.texts_of_ofRaw? issuer).1) token
      found
  · exact Raw.Fields.text_of_at? (fun _ audience => (TokenSettings.texts_of_ofRaw? audience).2) token
      found
  · exact Raw.Fields.text_of_at? (fun _ => DatabaseSettings.url_of_ofRaw?) database found
  · exact Raw.Fields.text_of_at? (fun _ => SchedulerSettings.prefix_of_ofRaw?) scheduler found
  · exact Raw.Fields.text_of_at? (fun _ => LoggingSettings.level_of_ofRaw?) logging found

end

namespace Sources

/-- What a variable sets counts more than a file and than what lies under that. -/
theorem at?_ofLayers_of_bound {slot : Slot} (known : slot ∈ Slot.all)
    {bindings : List (String × String)} (once : SetOnce bindings slot) {base : Raw.Layer}
    (bare : ∀ raw, (Raw.ofLayers [base]).at? slot = some raw → raw.IsBare) {raw : Raw}
    (set : bound? bindings slot = some raw) (single : raw.IsBare) (layer : Raw.Layer) :
    (Raw.ofLayers [base, Raw.ofLayers [layer, ofVariables bindings]]).at? slot = some raw := by
  have upper : (Raw.ofLayers [layer, ofVariables bindings]).at? slot = some raw := by
    have laid := at?_lay_ofVariables known once (Raw.ofLayers [layer])
    rw [set] at laid
    exact laid
  have isTable : ∀ group name found, slot = .inside group name →
      (Raw.ofLayers [layer, ofVariables bindings]).find? group = some found →
        ∃ inner, found = .table inner := by
    rintro group name found rfl is
    obtain ⟨inner, table, -⟩ := Raw.Fields.find?_of_at? upper
    exact ⟨inner, Option.some.inj (is.symm.trans table)⟩
  have laid := Raw.Fields.at?_lay_tree (Raw.isTree_ofLayers [layer, ofVariables bindings]) bare
    isTable
  rw [upper, single.merged_eq] at laid
  exact laid

/-- For every text that the variable of a setting is set to, where no other variable sets the same
    field or its section: the setting that is loaded is what the text prints as that was read, which
    is the text itself if and only if it is not respelled. A text with a character that no number
    has, and that is no word, is taken as it is, and a number with a plus or an exponent is not. -/
theorem takes_texts_as_they_print {slot : Slot} {field : Settings → String}
    (mem : (slot, field) ∈ Slot.texts) {s : Sources} (once : SetOnce s.bindings slot)
    {text : String} (set : s.bindings.lookup slot.variableName = some text) {settings : Settings}
    (loads : (∃ e, s.loadFor e = .ok settings) ∨ ∃ file, s.loadFrom file = .ok settings) :
    (Raw.ofPlainText text).text? = some (field settings)
      ∧ (field settings = text ↔ ¬ Raw.IsRespelled text)
      ∧ (Raw.isWord text = false → (∃ c ∈ text.toList, Numeral.isNumberChar c = false) →
        field settings = text)
      ∧ (Raw.readsNumber text = true → (∃ c ∈ text.toList, Numeral.isPlainChar c = false) →
        field settings ≠ text) := by
  have known : slot ∈ Slot.all := by
    have known : ∀ entry ∈ Slot.texts, entry.1 ∈ Slot.all := by decide
    exact known _ mem
  have single : bound? s.bindings slot = some (Raw.ofPlainText text) := by
    rw [bound?, set]
    rfl
  have taken : ∃ fields : Raw.Fields, Settings.ofFields? fields = some settings
      ∧ fields.at? slot = some (Raw.ofPlainText text) := by
    have laid {base : Raw.Layer} (layer : Raw.Layer)
        (bare : ∀ raw, (Raw.ofLayers [base]).at? slot = some raw → raw.IsBare) :=
      at?_ofLayers_of_bound known once bare single (Raw.isBare_ofPlainText text) layer
    obtain ⟨e, loads⟩ | ⟨file, loads⟩ := loads
    · obtain ⟨layer, taken, -⟩ := taken_of_loadOver loads
      refine ⟨_, taken, laid layer ?_⟩
      rw [e.at?_ofEnvironment known]
      exact fun raw => e.isBare_of_implied
    · obtain ⟨layer, taken, -⟩ := taken_of_loadOver loads
      refine ⟨_, taken, laid layer ?_⟩
      rw [Raw.ofLayers, List.foldl_cons, List.foldl_nil, Raw.Fields.lay, List.foldl_nil,
        Raw.Fields.at?_nil]
      intro raw nothing
      cases nothing
  obtain ⟨fields, taken, found⟩ := taken
  have prints := Settings.text_of_ofFields? mem taken found
  have verbatim : field settings = text ↔ ¬ Raw.IsRespelled text := by
    obtain ⟨printed, same, iff⟩ := Raw.text?_ofPlainText text
    obtain rfl := Option.some.inj (same.symm.trans prints)
    exact iff
  refine ⟨prints, verbatim, fun noWord beyond => ?_, fun number letter same => ?_⟩
  · rw [Raw.ofPlainText_eq_text noWord beyond] at prints
    exact (Option.some.inj prints).symm
  · exact verbatim.1 same (Raw.isRespelled_of_readsNumber number letter)

/-- An address is taken as it is, zeros in front of an integer get lost, and an exponent is carried
    out. -/
theorem takes_three_texts :
    let s : Sources := ⟨[], [("KEYSTONE__TOKEN__ISSUER", "https://notes.example"),
      ("KEYSTONE__TOKEN__AUDIENCE", "007"), ("KEYSTONE__SCHEDULER__TEST_TASK_PREFIX", "1e3")]⟩
    let settings : Settings := ⟨.development, {}, ⟨"https://notes.example", "7", 604800⟩, {},
      { testTaskPrefix := "1000" }, {}⟩
    s.loadFrom "none.toml" = .ok settings
      ∧ (Raw.isWord "https://notes.example" = false
        ∧ settings.token.issuer = "https://notes.example")
      ∧ (Raw.ofPlainText "007").text? = some "7" ∧ Raw.IsRespelled "007"
      ∧ Raw.readsNumber "1e3" = true ∧ settings.scheduler.testTaskPrefix ≠ "1e3" := by
  intro s settings
  have loads : s.loadFrom "none.toml" = .ok settings := by decide +kernel
  have orderly : Orderly s.bindings := ⟨by decide, by decide +kernel⟩
  have loaded : ∃ file, s.loadFrom file = .ok settings := ⟨_, loads⟩
  have issuer : (.inside "token" "issuer", fun settings => settings.token.issuer) ∈ Slot.texts := by
    simp [Slot.texts]
  have audience :
      (.inside "token" "audience", fun settings => settings.token.audience) ∈ Slot.texts := by
    simp [Slot.texts]
  have start : (.inside "scheduler" "test_task_prefix", fun settings =>
      settings.scheduler.testTaskPrefix) ∈ Slot.texts := by
    simp [Slot.texts]
  have address : s.bindings.lookup (Slot.inside "token" "issuer").variableName
      = some "https://notes.example" := by decide +kernel
  have zeros : s.bindings.lookup (Slot.inside "token" "audience").variableName = some "007" := by
    decide +kernel
  have exponent : s.bindings.lookup (Slot.inside "scheduler" "test_task_prefix").variableName
      = some "1e3" := by decide +kernel
  obtain ⟨-, -, verbatim, -⟩ :=
    takes_texts_as_they_print issuer (orderly.setOnce (by decide)) address (.inr loaded)
  obtain ⟨prints, respelled, -, -⟩ :=
    takes_texts_as_they_print audience (orderly.setOnce (by decide)) zeros (.inr loaded)
  obtain ⟨-, -, -, changes⟩ :=
    takes_texts_as_they_print start (orderly.setOnce (by decide)) exponent (.inr loaded)
  have noWord : Raw.isWord "https://notes.example" = false := by decide +kernel
  have number : Raw.readsNumber "1e3" = true := by decide +kernel
  refine ⟨loads, ⟨noWord, verbatim noWord ⟨':', by decide, by decide⟩⟩, prints, ?_, number,
    changes number ⟨'e', by decide, by decide⟩⟩
  by_contra plain
  exact absurd (respelled.2 plain) (by decide)

/-- Loading does not take every issuer as it was set. -/
theorem respells_issuers :
    let issuer (text : String) : Except LoadFault String :=
      (loadFrom "none.toml" ⟨[], [("KEYSTONE__TOKEN__ISSUER", text)]⟩).map (·.token.issuer)
    issuer "007" = .ok "7" ∧ issuer "TRUE" = .ok "true" ∧ issuer "1.50" = .ok "1.5"
      ∧ issuer "12345678901234567890" = .ok "12345678901234567000" := by
  decide +kernel

end Sources

end Latchkey

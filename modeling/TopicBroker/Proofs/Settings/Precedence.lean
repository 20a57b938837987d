import TopicBroker.Proofs.Settings.Acceptance
import TopicBroker.Proofs.Settings.Sources

/-!
# The strongest source decides

Each setting is converted from the value of its environment variable, or else
from its value in the settings file, or else it is the standard one.  Settings are
read section by section, so this holds where sections are written as tables.
-/

namespace TopicBroker

open Toml (Value)

namespace Environment

variable {environment : Environment}

/-- The variables that override a setting, given by its written path. -/
def variablesFor (environment : Environment) (setting : String) : Environment :=
  environment.filter fun name _ => settingOf? name = some setting

theorem filter_overrides (environment : Environment) (setting : String) :
    (environment.overrides.filter fun entry => entry.1 = setting) =
      (environment.variablesFor setting).overrides := by
  rw [overrides, overrides, variablesFor, Std.ExtTreeMap.toList_filter, List.filter_filterMap,
    List.filterMap_filter]
  congr 1
  funext entry
  cases leads : settingOf? entry.1 with
  | none => simp [leads]
  | some other => by_cases same : other = setting <;> simp [leads, same]

theorem mem_overrides {entry : String × Value} : entry ∈ environment.overrides ↔
    ∃ name text, environment[name]? = some text ∧ settingOf? name = some entry.1 ∧
      valueOf text = entry.2 := by
  obtain ⟨setting, value⟩ := entry
  simp only [overrides, List.mem_filterMap, Option.map_eq_some_iff, Prod.exists,
    Std.ExtTreeMap.mem_toList_iff_getElem?_eq_some, Prod.mk.injEq]
  simp

theorem not_isTable_valueOf (text : String) : ¬ (valueOf text).IsTable := by
  rintro ⟨entries, same⟩
  dsimp only [valueOf] at same
  by_cases yes : Text.asciiLower text.toList = "true".toList
  · rw [if_pos yes] at same
    cases same
  · rw [if_neg yes] at same
    by_cases no : Text.asciiLower text.toList = "false".toList
    · rw [if_pos no] at same
      cases same
    · rw [if_neg no] at same
      split at same
      · cases same
      · split at same <;> cases same

end Environment

namespace Settings

open Environment

variable {file : SettingsFile} {environment other : Environment}
  {written : List (String × Value)} {key : Key}

/-- A setting is given by one of the variables that lead to it. -/
theorem exists_given? {name : String} (present : name ∈ environment)
    (leads : settingOf? name = some key.text) :
    ∃ name text, environment[name]? = some text ∧ settingOf? name = some key.text ∧
      given? environment.overrides key = some (valueOf text) := by
  obtain ⟨text, found⟩ := Option.isSome_iff_exists.mp
    (Std.ExtTreeMap.mem_iff_isSome_getElem?.mp present)
  have present : (key.text, valueOf text) ∈ environment.overrides.filter (·.1 = key.text) :=
    List.mem_filter.mpr ⟨mem_overrides.mpr ⟨name, text, found, leads, rfl⟩, by simp⟩
  obtain ⟨last, isLast⟩ := Option.ne_none_iff_exists'.mp
    (mt List.getLast?_eq_none_iff.mp (List.ne_nil_of_mem present))
  obtain ⟨member, named⟩ := List.mem_filter.mp (List.mem_of_getLast? isLast)
  obtain ⟨name, text, found, leads, value⟩ := mem_overrides.mp member
  refine ⟨name, text, found, of_decide_eq_true named ▸ leads, ?_⟩
  rw [given?, isLast, Option.map_some, value]

theorem given?_of_none (missing : ∀ name ∈ environment, settingOf? name ≠ some key.text) :
    given? environment.overrides key = none := by
  have none : environment.overrides.filter (·.1 = key.text) = [] := by
    rw [List.filter_eq_nil_iff]
    intro entry member same
    obtain ⟨name, text, found, leads, _⟩ := mem_overrides.mp member
    apply missing name
    · exact Std.ExtTreeMap.mem_iff_isSome_getElem?.mpr (by simp [found])
    · rw [leads, of_decide_eq_true same]
  rw [given?, none]
  rfl

theorem given?_congr
    (agree : ∀ name, settingOf? name = some key.text → other[name]? = environment[name]?) :
    given? other.overrides key = given? environment.overrides key := by
  have same : other.variablesFor key.text = environment.variablesFor key.text := by
    apply Std.ExtTreeMap.ext_getElem?
    intro name
    rw [variablesFor, variablesFor, Std.ExtTreeMap.getElem?_filter',
      Std.ExtTreeMap.getElem?_filter']
    by_cases leads : settingOf? name = some key.text
    · rw [agree name leads]
    · simp [leads]
  rw [given?, given?, filter_overrides, filter_overrides, same]

theorem distinct_of_fileSource (reads : fileSource environment file = .ok written) :
    (Value.table written).Distinct := by
  cases file with
  | absent =>
      cases reads
      exact .table List.nodup_nil (by simp)
  | unreadable => cases reads
  | content bytes =>
      dsimp only [fileSource] at reads
      split at reads
      · cases reads
      · split at reads
        · cases reads
        · next document parses =>
            cases reads
            obtain ⟨items, _, rfl⟩ := Option.map_eq_some_iff.mp parses
            exact Toml.distinct_of_parse parses

/-- What the sources give for a setting: a variable if there is one, or else the file. -/
def source? (written : List (String × Value)) (environment : Environment) (key : Key) :
    Option Value :=
  (given? environment.overrides key).or (key.in? (.table written))

/-- A file and an environment whose settings are written one by one: the file has bare keys at its
root and no list for a section, and the variables lead to settings if to anything of them. -/
structure Admissible (file : SettingsFile) (environment : Environment)
    (written : List (String × Value)) : Prop where
  reads : fileSource environment file = .ok written
  bare : ∀ entry ∈ written, KeyPath.IsBare entry.1
  noList : Sections (fun part => ¬ part.IsList) (.table written)
  proper : ∀ entry ∈ environment.overrides, Proper (KeyPath.ofText entry.1)

section Gathering

theorem not_isList_of_isTable (part : Value) (isTable : part.IsTable) : ¬ part.IsList := by
  obtain ⟨entries, rfl⟩ := isTable
  rintro ⟨items, same⟩
  cases same

theorem isTable_gathered (written : List (String × Value)) (environment : Environment) :
    (gathered written environment).IsTable :=
  isTable_layer (isTable_layer ⟨_, rfl⟩)

theorem Admissible.sections (admissible : Admissible file environment written)
    {good : Value → Prop} (tables : ∀ part : Value, part.IsTable → good part)
    (sections : Sections good (.table written)) : Sections good (gathered written environment) :=
  sections_layer tables admissible.proper
    (sections_file tables (distinct_of_fileSource admissible.reads) admissible.bare sections)

theorem Admissible.convertOr_gathered (admissible : Admissible file environment written)
    (key : Key) : key.convertOr .lenient (key.in? (gathered written environment)) =
      key.convertOr .lenient (source? written environment key) := by
  have single : ∀ entry ∈ environment.overrides, ¬ entry.2.IsTable := by
    intro entry member
    obtain ⟨_, text, _, _, value⟩ := mem_overrides.mp member
    exact value ▸ not_isTable_valueOf text
  rw [gathered, in?_layer admissible.proper single, source?]
  cases given? environment.overrides key with
  | none =>
      exact convertOr_file (distinct_of_fileSource admissible.reads) admissible.bare key
        fun _ _ => rfl
  | some value => rfl

theorem Admissible.load_eq (admissible : Admissible file environment written) :
    load file environment =
      match Conversion.lenient.settings? (gathered written environment) with
      | none => .error .inconvertible
      | some settings => settings.validate := by
  have loads := Settings.load_eq file environment
  rw [admissible.reads] at loads
  exact loads

theorem Admissible.load_eq_of_tables (admissible : Admissible file environment written)
    (tables : Sections Value.IsTable (.table written)) :
    load file environment =
      match collected fun key => key.convertOr .lenient (source? written environment key) with
      | none => .error .inconvertible
      | some settings => settings.validate := by
  have sections := admissible.sections (fun _ isTable => isTable) tables
  obtain ⟨entries, same⟩ := isTable_gathered written environment
  rw [admissible.load_eq, same, settings?_of_tables .lenient (same ▸ sections), ← same,
    funext admissible.convertOr_gathered]

theorem Admissible.convertOr_of_load (admissible : Admissible file environment written)
    {settings : Settings} (loads : load file environment = .ok settings) (key : Key) :
    key.convertOr .lenient (source? written environment key) = some (key.get settings) := by
  rw [admissible.load_eq] at loads
  cases gives : Conversion.lenient.settings? (gathered written environment) with
  | none =>
      rw [gives] at loads
      cases loads
  | some loaded =>
      rw [gives] at loads
      obtain ⟨_, rfl⟩ := validate_eq_ok_iff.mp loads
      -- Settings are found in lists and tables only, and no source makes a list of a section.
      have noList := admissible.sections not_isList_of_isTable admissible.noList
      obtain ⟨entries, same⟩ := isTable_gathered written environment
      rw [same] at gives noList
      rw [settings?_of_tables .lenient (isTable_of_settings? noList gives), ← same] at gives
      rw [← admissible.convertOr_gathered key]
      exact collected_eq_some_iff.mp gives key

end Gathering

/-- Two files and environments say the same about a setting. -/
structure AgreeOn (key : Key) (written otherWritten : List (String × Value))
    (environment other : Environment) : Prop where
  file : key.in? (.table otherWritten) = key.in? (.table written)
  overrides : ∀ name, settingOf? name = some key.text → other[name]? = environment[name]?

theorem AgreeOn.source? {otherWritten : List (String × Value)}
    (agree : AgreeOn key written otherWritten environment other) :
    Settings.source? otherWritten other key = Settings.source? written environment key := by
  rw [Settings.source?, Settings.source?, agree.file, given?_congr agree.overrides]

/-- Each setting comes from its strongest source. -/
structure Keywise (file : SettingsFile) (environment : Environment)
    (written : List (String × Value)) : Prop where
  overridden : ∀ (key : Key) (name : String), name ∈ environment →
    settingOf? name = some key.text →
    ∃ name text, environment[name]? = some text ∧ settingOf? name = some key.text ∧
      source? written environment key = some (valueOf text)
  notOverridden : ∀ key : Key, (∀ name ∈ environment, settingOf? name ≠ some key.text) →
    source? written environment key = key.in? (.table written)
  converts : ∀ settings, load file environment = .ok settings →
    ∀ key : Key, key.convertOr .lenient (source? written environment key) = some (key.get settings)
  /-- What is said about other settings does not matter. -/
  independent : ∀ otherFile other otherWritten, Admissible otherFile other otherWritten →
    ∀ settings others, load file environment = .ok settings →
      load otherFile other = .ok others → ∀ key : Key,
        AgreeOn key written otherWritten environment other → key.get others = key.get settings
  /-- Sections that are tables are refused only for their settings. -/
  decides : Sections Value.IsTable (.table written) → load file environment =
    match collected fun key => key.convertOr .lenient (source? written environment key) with
    | none => .error .inconvertible
    | some settings => settings.validate
  /-- What is no setting does not matter. -/
  ignores : Sections Value.IsTable (.table written) →
    ∀ otherFile other otherWritten, Admissible otherFile other otherWritten →
      Sections Value.IsTable (.table otherWritten) →
      (∀ key, AgreeOn key written otherWritten environment other) →
      load otherFile other = load file environment

/-- Where sections and settings are written one by one, each setting comes from its strongest
source. -/
theorem comes_from_strongest_source (admissible : Admissible file environment written) :
    Keywise file environment written where
  overridden key name present leads := by
    obtain ⟨name, text, found, leads, gives⟩ := exists_given? present leads
    refine ⟨name, text, found, leads, ?_⟩
    rw [source?, gives]
    rfl
  notOverridden key missing := by
    rw [source?, given?_of_none missing]
    rfl
  converts settings loads := admissible.convertOr_of_load loads
  independent otherFile other otherWritten otherAdmissible settings others loads otherLoads := by
    intro key agree
    have first := admissible.convertOr_of_load loads key
    have second := otherAdmissible.convertOr_of_load otherLoads key
    rw [agree.source?, first] at second
    exact (Option.some.inj second).symm
  decides tables := admissible.load_eq_of_tables tables
  ignores tables otherFile other otherWritten otherAdmissible otherTables agree := by
    have sources : source? otherWritten other = source? written environment :=
      funext fun key => (agree key).source?
    rw [admissible.load_eq_of_tables tables, otherAdmissible.load_eq_of_tables otherTables, sources]

theorem proper_path (key : Key) : Proper key.path where
  noSection other same := by cases congrArg KeyPath.steps same
  noPart other step steps same := by
    have lengths := congrArg (fun path => path.steps.length) same
    simp [Key.path] at lengths
  noPosition other index steps same := by cases congrArg KeyPath.steps same

theorem exists_written {check : List (String × Value) → Bool}
    (passes : (fileSource environment file).toOption.any check = true) :
    ∃ written, fileSource environment file = .ok written ∧ check written = true := by
  cases reads : fileSource environment file with
  | error _ =>
      rw [reads] at passes
      cases passes
  | ok written =>
      rw [reads] at passes
      exact ⟨written, rfl, passes⟩

/-- One setting comes from a variable, one from the file, and the others are the standard ones. -/
theorem comes_from_strongest_source_of_three :
    ∃ written, Keywise (.content "color = 1\n[mqtt]\nmax_qos = 1\n".toUTF8)
        (.ofList [("VIBEMQ__LOG__LEVEL", "debug")]) written ∧
      (load (.content "color = 1\n[mqtt]\nmax_qos = 1\n".toUTF8)
        (.ofList [("VIBEMQ__LOG__LEVEL", "debug")])).toOption =
        some { standard with logLevel := "debug", maxQos := 1 } := by
  have checked : ((fileSource (.ofList [("VIBEMQ__LOG__LEVEL", "debug")])
      (.content "color = 1\n[mqtt]\nmax_qos = 1\n".toUTF8)).toOption.any fun written =>
        written.all fun entry => KeyPath.IsBare entry.1 ∧ ¬ entry.2.IsList) = true := by
    decide +kernel
  obtain ⟨written, reads, passes⟩ := exists_written checked
  rw [List.all_eq_true] at passes
  have paths : (overrides (.ofList [("VIBEMQ__LOG__LEVEL", "debug")])).map Prod.fst =
      [Key.logLevel.text] := by decide +kernel
  refine ⟨written, comes_from_strongest_source ⟨reads, ?_, ?_, ?_⟩, by decide +kernel⟩
  · exact fun entry member => (of_decide_eq_true (passes entry member)).1
  · intro key part found
    exact (of_decide_eq_true (passes _ (Toml.mem_of_lookup found))).2
  · intro entry member
    have same := paths ▸ List.mem_map_of_mem (f := Prod.fst) member
    rw [List.mem_singleton.mp same, ofText_eq_path_iff.mpr rfl]
    exact proper_path Key.logLevel

/-- Lists and positions give settings that no source gives by name, and a section that is neither a
list nor a table is refused unless a variable makes a table of it. -/
theorem sections_that_are_no_tables :
    (∃ written, fileSource ∅ (.content "mqtt = [1]".toUTF8) = .ok written ∧
      (∀ entry ∈ written, KeyPath.IsBare entry.1) ∧ source? written ∅ .maxQos = none ∧
      (load (.content "mqtt = [1]".toUTF8) ∅).toOption = some { standard with maxQos := 1 }) ∧
    ((overrides (.ofList [("VIBEMQ__LOG[0]", "debug")])).map Prod.fst = ["log[0]"] ∧
      (load .absent (.ofList [("VIBEMQ__LOG[0]", "debug")])).toOption =
        some { standard with logLevel := "debug" }) ∧
    (load (.content "log = 5".toUTF8) ∅).toOption = none ∧
    (load (.content "log = 5".toUTF8) (.ofList [("VIBEMQ__LOG__X", "1")])).toOption =
      some standard := by
  refine ⟨?_, ⟨by decide +kernel, by decide +kernel⟩, by decide +kernel, by decide +kernel⟩
  have checked : ((fileSource ∅ (.content "mqtt = [1]".toUTF8)).toOption.any fun written =>
      (written.all fun entry => KeyPath.IsBare entry.1) &&
        (source? written ∅ .maxQos).isNone) = true := by decide +kernel
  obtain ⟨written, reads, passes⟩ := exists_written checked
  rw [Bool.and_eq_true, List.all_eq_true, Option.isNone_iff_eq_none] at passes
  exact ⟨written, reads, fun entry member => of_decide_eq_true (passes.1 entry member),
    passes.2, by decide +kernel⟩

end Settings

end TopicBroker

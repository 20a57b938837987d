import TopicBroker.Proofs.Settings.Placeholders
import TopicBroker.Proofs.Settings.Precedence

/-!
# Two ways of reading a document agree

Settings can be read from a document alone, or loaded from a settings file with the
standard values below it.  The first way takes only values of the right type and fills in
what is missing setting by setting, the second one lays the document over the standard
values and converts what it finds.  Whatever the first way accepts means the same to the
second one, as long as nothing of the second way is used: no placeholder, no variable,
and no key that is written like a path.

There is one exception.  The first way takes a moment for a section without settings, and the
second way refuses it.
-/

namespace TopicBroker

open Toml (Value)

namespace Settings

section Converting

variable {key : Key} {value : Value} {content : key.Content}

theorem lenientNumber?_of_strict {greatest number : Nat} (bounded : greatest ≤ Text.maxUInt64)
    (strict : Conversion.strictNumber? greatest value = some number) :
    Conversion.lenientNumber? greatest value = some number := by
  cases value with
  | integer whole =>
      simp only [Conversion.strictNumber?, Conversion.inRange?] at strict
      split at strict
      case isFalse => cases strict
      case isTrue inside =>
        cases strict
        have held : 0 ≤ whole ∧ whole ≤ Text.maxUInt64 := ⟨inside.1, by omega⟩
        have small : whole.toNat ≤ greatest := by omega
        simp [Conversion.lenientNumber?, Conversion.inRange?, held, small]
  | _ => cases strict

/-- A value of the right type needs no conversion. -/
theorem convert?_lenient_of_strict (strict : key.convert? .strict value = some content) :
    key.convert? .lenient value = some content := by
  have bounded : Conversion.greatestQos ≤ Text.maxUInt64 := by decide
  cases key with
  | logLevel | logFilter | retainAvailable => cases value <;> first | exact strict | cases strict
  | maxQos => exact lenientNumber?_of_strict bounded strict
  | maxTopicLevels | maxQueuedMessages | outletCapacity =>
      exact lenientNumber?_of_strict le_rfl strict

theorem convertOr_lenient_of_strict {given : Option Value}
    (strict : key.convertOr .strict given = some content) :
    key.convertOr .lenient given = some content := by
  cases given with
  | none => exact strict
  | some value => exact convert?_lenient_of_strict strict

end Converting

section File

variable {written : List (String × Value)} {settings : Settings}

/-- A section that is no table hides the standard one. -/
theorem field?_file {key : Key} {part : Value} (distinct : (Value.table written).Distinct)
    (bare : ∀ entry ∈ written, KeyPath.IsBare entry.1) (single : ¬ part.IsTable)
    (found : (Value.table written).field? key.heading = some part) :
    (layer standardSource written).field? key.heading = some part := by
  change written.lookup key.heading = some part at found
  rw [layer_of_isBare bare, Value.field?_layEntries distinct.keyed.keys, found]
  exact congrArg some (Value.over_of_not_isTable single)

/-- A section of the document is written as a moment. -/
def HasMoment (root : Value) : Prop :=
  ∃ (key : Key) (text : String), root.field? key.heading = some (.moment text)

theorem isSection_lenient_of_strict (noMoment : ¬ HasMoment (.table written))
    (sections : Sections Conversion.strict.IsSection (.table written)) :
    Sections Conversion.lenient.IsSection (.table written) := by
  intro key part found
  have isSection := sections key part found
  cases part with
  | table | list => trivial
  | moment text => exact absurd ⟨key, text, found⟩ noMoment
  | _ => exact isSection.elim

section Decoded

variable (distinct : (Value.table written).Distinct)
  (bare : ∀ entry ∈ written, KeyPath.IsBare entry.1)
include distinct bare

/-- Whatever is read strictly from a document is read leniently from the standard values with the
document above them. -/
theorem settings?_file (strict : Conversion.strict.settings? (.table written) = some settings)
    (noMoment : ¬ HasMoment (.table written)) :
    Conversion.lenient.settings? (layer standardSource written) = some settings := by
  obtain ⟨sections, converts⟩ := settings?_eq_some_iff.mp strict
  obtain ⟨entries, same⟩ : (layer standardSource written).IsTable := isTable_layer ⟨_, rfl⟩
  rw [same, settings?_eq_some_iff, ← same]
  constructor
  · exact sections_file (isSection_of_isTable .lenient) distinct bare
      (isSection_lenient_of_strict noMoment sections)
  · intro key
    have layered := convertOr_file distinct bare key fun _ => ofSection?_of_isTable key
    exact layered.trans (convertOr_lenient_of_strict (converts key))

theorem settings?_file_of_moment (moment : HasMoment (.table written)) :
    Conversion.lenient.settings? (layer standardSource written) = none := by
  obtain ⟨key, text, found⟩ := moment
  have single : ¬ (Value.moment text).IsTable := by
    rintro ⟨entries, same⟩
    cases same
  obtain ⟨entries, same⟩ : (layer standardSource written).IsTable := isTable_layer ⟨_, rfl⟩
  rw [same, Option.eq_none_iff_forall_ne_some]
  intro settings gives
  have refused := (settings?_eq_some_iff.mp gives).1 key (.moment text)
  rw [← same] at refused
  cases refused (field?_file distinct bare single found)

end Decoded

end File

/-- No variable of the environment is named like one that overrides a setting. -/
def OverridesNothing (environment : Environment) : Prop :=
  ∀ name ∈ environment, ¬ Environment.namespaceText <+: Text.lower name.toList

/-- A document that is the same tree in both dialects, with bare keys at its root and without
placeholders. -/
structure ReadsAlike (document : String) : Prop where
  sameTree : Toml.parse? .later document = Toml.parse? .first document
  bare : ∀ root, Toml.parse? .first document = some root →
    ∀ entry ∈ root.entries, KeyPath.IsBare entry.1
  noPlaceholder : ∀ behind, behind <:+ document.toList → ¬ Placeholder.Starts behind

section Loading

variable {environment : Environment} {file : SettingsFile} {document : String} {root : Value}
  {written : List (String × Value)} {settings : Settings}

theorem overrides_eq_nil (nothing : OverridesNothing environment) : environment.overrides = [] := by
  rw [List.eq_nil_iff_forall_not_mem]
  intro entry member
  obtain ⟨name, text, found, leads, _⟩ := Environment.mem_overrides.mp member
  have present : name ∈ environment :=
    Std.ExtTreeMap.mem_iff_isSome_getElem?.mpr (by simp [found])
  have other : ¬ Environment.namespaceText.isPrefixOf (Text.lower name.toList) = true :=
    fun begins => nothing name present (List.isPrefixOf_iff_prefix.mp begins)
  dsimp only [Environment.settingOf?] at leads
  rw [if_neg other] at leads
  cases leads

theorem load_of_fileSource (nothing : OverridesNothing environment)
    (reads : fileSource environment file = .ok written) :
    load file environment =
      match Conversion.lenient.settings? (layer standardSource written) with
      | none => .error .inconvertible
      | some settings => settings.validate := by
  have loads := load_eq file environment
  rw [reads] at loads
  simp only [gathered, overrides_eq_nil nothing] at loads
  exact loads

theorem substitute_eq_self_of_vain {text : List Char}
    (vain : ∀ behind, behind <:+ text → ¬ Placeholder.Starts behind)
    (value? : List Char → Option (List Char)) : Placeholder.substitute value? text = text := by
  induction text with
  | nil => exact Placeholder.substitute_nil value?
  | cons first rest ih =>
      have here : Placeholder.placeholder? (first :: rest) = none := by
        rw [Option.eq_none_iff_forall_ne_some]
        intro found starts
        exact vain _ List.suffix_rfl (Placeholder.starts_iff.mpr ⟨found, starts⟩)
      rw [Placeholder.substitute_cons value? here,
        ih fun behind suffix => vain behind (suffix.trans (List.suffix_cons ..))]

theorem fileSource_of_readsAlike (alike : ReadsAlike document)
    (parses : Toml.parse? .first document = some root) (environment : Environment) :
    fileSource environment (.content document.toUTF8) = .ok root.entries := by
  have decoded : String.fromUTF8? document.toUTF8 = some document := dif_pos document.isValidUTF8
  have kept : substituted environment document = document := by
    rw [substituted, substitute_eq_self_of_vain alike.noPlaceholder, String.ofList_toList]
  simp only [fileSource, decoded, kept, alike.sameTree, parses]

theorem load_of_readsAlike (nothing : OverridesNothing environment) (alike : ReadsAlike document)
    (parses : Toml.parse? .first document = some (.table written)) :
    load (.content document.toUTF8) environment =
      match Conversion.lenient.settings? (layer standardSource written) with
      | none => .error .inconvertible
      | some settings => settings.validate :=
  load_of_fileSource nothing (fileSource_of_readsAlike alike parses environment)

theorem exists_of_parse (accepted : parse document = .ok settings) :
    ∃ written, Toml.parse? .first document = some (.table written) ∧
      Conversion.strict.settings? (.table written) = some settings ∧
      settings.validate = .ok settings := by
  unfold parse at accepted
  split at accepted
  case h_1 => cases accepted
  case h_2 decoded gives =>
      obtain ⟨root, parses, strict⟩ := Option.bind_eq_some_iff.mp gives
      obtain ⟨items, _, rfl⟩ := Option.map_eq_some_iff.mp parses
      obtain ⟨_, rfl⟩ := validate_eq_ok_iff.mp accepted
      exact ⟨_, parses, strict, accepted⟩

end Loading

/-- In an environment that overrides nothing, what is read from a document alone is loaded from a
file with the document, unless a section is written as a moment, and without a file what the empty
document gives is loaded. -/
structure LoadsAsParsed (environment : Environment) : Prop where
  loads (document : String) (settings : Settings) (alike : ReadsAlike document)
    (accepted : parse document = .ok settings)
    (noMoment : ∀ root, Toml.parse? .first document = some root → ¬ HasMoment root) :
    load (.content document.toUTF8) environment = .ok settings
  refuses (document : String) (root : Value) (alike : ReadsAlike document)
    (parses : Toml.parse? .first document = some root) (moment : HasMoment root) :
    load (.content document.toUTF8) environment = .error .inconvertible
  absent : load .absent environment = parse ""
  fromEnvironment : fromEnvironment environment = parse ""

/-- Where the environment overrides nothing, loading and reading agree in this way. -/
theorem loads_as_parsed {environment : Environment} (nothing : OverridesNothing environment) :
    LoadsAsParsed environment := by
  have absent : load .absent environment = parse "" := by
    have distinct : (Value.table []).Distinct := .table List.nodup_nil (by simp)
    have strict : Conversion.strict.settings? (.table []) = some standard := rfl
    have noMoment : ¬ HasMoment (.table []) := by
      rintro ⟨key, text, found⟩
      cases found
    rw [load_of_fileSource nothing rfl, settings?_file distinct (by simp) strict noMoment]
    rfl
  refine ⟨?_, ?_, absent, absent⟩
  · intro document settings alike accepted noMoment
    obtain ⟨written, parses, strict, valid⟩ := exists_of_parse accepted
    have loaded := settings?_file (Toml.distinct_of_parse parses) (alike.bare _ parses) strict
      (noMoment _ parses)
    rw [load_of_readsAlike nothing alike parses, loaded]
    exact valid
  · intro document root alike parses moment
    obtain ⟨items, _, rfl⟩ := Option.map_eq_some_iff.mp parses
    have refused := settings?_file_of_moment (Toml.distinct_of_parse parses)
      (alike.bare _ parses) moment
    rw [load_of_readsAlike nothing alike parses, refused]

section Samples

theorem not_starts_of_notMem {text : List Char} (plain : '$' ∉ text) (behind : List Char)
    (suffix : behind <:+ text) : ¬ Placeholder.Starts behind := by
  rw [Placeholder.starts_iff]
  rintro ⟨found, starts⟩
  unfold Placeholder.placeholder? at starts
  split at starts
  · exact plain (suffix.mem List.mem_cons_self)
  · cases starts

theorem readsAlike_of_trees {document : String} {written : List (String × Value)}
    (first : Toml.parse? .first document = some (.table written))
    (later : Toml.parse? .later document = some (.table written))
    (bare : ∀ entry ∈ written, KeyPath.IsBare entry.1) (plain : '$' ∉ document.toList) :
    ReadsAlike document where
  sameTree := later.trans first.symm
  bare root parses := by
    rw [first] at parses
    cases parses
    exact bare
  noPlaceholder := not_starts_of_notMem plain

/-- A document is read as a tree that a check singles out.  Values cannot be compared as such, since
there are floats among them. -/
theorem parse?_eq_of_check {dialect : Toml.Dialect} {document : String} {tree : Value}
    {check : Value → Bool} (unique : ∀ value, check value = true → value = tree)
    (passes : (Toml.parse? dialect document).any check = true) :
    Toml.parse? dialect document = some tree := by
  obtain ⟨value, parses, same⟩ := (Option.any_eq_true check _).mp passes
  rw [parses, unique value same]

/-- A list for a section, a table with one setting for another one, and an empty list. -/
def listTree : Value :=
  .table [("mqtt", .list [.integer 1]),
    ("limits", .table [("max_topic_levels", .integer 9223372036854775807)]), ("hue", .list [])]

def isListTree : Value → Bool
  | .table [(first, .list [.integer qos]), (second, .table [(name, .integer levels)]),
      (third, .list [])] =>
    (first, second, third, name) = ("mqtt", "limits", "hue", "max_topic_levels") ∧
      (qos, levels) = (1, 9223372036854775807)
  | _ => false

theorem eq_listTree (value : Value) (same : isListTree value = true) : value = listTree := by
  unfold isListTree at same
  split at same
  · simp only [decide_eq_true_eq, Prod.mk.injEq] at same
    obtain ⟨⟨rfl, rfl, rfl, rfl⟩, rfl, rfl⟩ := same
    rfl
  · cases same

def isMomentTree : Value → Bool
  | .table [(name, .moment text)] => (name, text) = ("log", "07:32:00.0")
  | _ => false

theorem eq_momentTree (value : Value) (same : isMomentTree value = true) :
    value = .table [("log", .moment "07:32:00.0")] := by
  unfold isMomentTree at same
  split at same
  · simp only [decide_eq_true_eq, Prod.mk.injEq] at same
    obtain ⟨rfl, rfl⟩ := same
    rfl
  · cases same

/-- One section is a list, one key is no section, and one variable is named almost like those that
override a setting. -/
theorem loads_as_parsed_of_list :
    let document := "mqtt = [1]\nlimits.max_topic_levels = 9223372036854775807\nhue = []"
    let environment : Environment := .ofList [("VIBEMQ_LOG__LEVEL", "debug"), ("HOME", "/")]
    let settings : Settings :=
      { standard with maxQos := 1, maxTopicLevels := 9223372036854775807 }
    OverridesNothing environment ∧ ReadsAlike document ∧ parse document = .ok settings ∧
      load (.content document.toUTF8) environment = .ok settings ∧
      load .absent environment = parse "" := by
  intro document environment settings
  have nothing : OverridesNothing environment := by
    have others : ∀ name ∈ ["VIBEMQ_LOG__LEVEL", "HOME"],
        ¬ Environment.namespaceText <+: Text.lower name.toList := by decide +kernel
    intro name member
    have named : ["VIBEMQ_LOG__LEVEL", "HOME"].contains name = true :=
      Std.ExtTreeMap.mem_ofList.mp member
    exact others name (List.contains_iff_mem.mp named)
  have first : Toml.parse? .first document = some listTree :=
    parse?_eq_of_check eq_listTree (by decide +kernel)
  have later : Toml.parse? .later document = some listTree :=
    parse?_eq_of_check eq_listTree (by decide +kernel)
  have alike : ReadsAlike document :=
    readsAlike_of_trees first later (by decide +kernel) (by decide +kernel)
  have accepted : parse document = .ok settings := by decide +kernel
  have noMoment (root : Value) (parses : Toml.parse? .first document = some root) :
      ¬ HasMoment root := by
    cases first.symm.trans parses
    rintro ⟨key, text, found⟩
    cases key <;> cases found
  exact ⟨nothing, alike, accepted,
    (loads_as_parsed nothing).loads document settings alike accepted noMoment,
    (loads_as_parsed nothing).absent⟩

/-- A time of day is read as a section without settings, and refused when it is loaded. -/
theorem moment_is_section_only_when_parsed :
    OverridesNothing ∅ ∧ ReadsAlike "log = 07:32:00.0" ∧ parse "log = 07:32:00.0" = .ok standard ∧
      load (.content "log = 07:32:00.0".toUTF8) ∅ = .error .inconvertible := by
  have first : Toml.parse? .first "log = 07:32:00.0" =
      some (.table [("log", .moment "07:32:00.0")]) :=
    parse?_eq_of_check eq_momentTree (by decide +kernel)
  have later : Toml.parse? .later "log = 07:32:00.0" =
      some (.table [("log", .moment "07:32:00.0")]) :=
    parse?_eq_of_check eq_momentTree (by decide +kernel)
  refine ⟨?_, readsAlike_of_trees first later (by decide +kernel) (by decide +kernel),
    by decide +kernel, by decide +kernel⟩
  intro name member
  simp at member

end Samples

end Settings

end TopicBroker

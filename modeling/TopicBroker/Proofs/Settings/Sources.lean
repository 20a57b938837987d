import Mathlib.Data.List.Induction
import TopicBroker.Proofs.Settings.Keys

/-!
# Which source a setting comes from

Settings are put together from three sources: environment variables, a
settings file and the standard values.  Each setting comes from the strongest source
that gives it, whatever the sources say about the other settings.

There are two ways to write several settings at once.  A section of the file may be a
list, and the path of a variable may lead to a position, which makes a list of
the section.  A list gives the settings of its section by position, so that
these hang together.  Apart from them the sources are laid over each other key by key.
-/

namespace TopicBroker

open Toml (Value)

namespace Settings

section Writing

variable {good : Value → Prop} {path : KeyPath} {present written : Value}
  {source : List (String × Value)}

/-- A path that leads to a setting itself, if to anything of settings at all: it leads neither to a
whole section, nor to a part of a setting, nor to a position in a section. -/
structure Proper (path : KeyPath) : Prop where
  noSection : ∀ key : Key, path ≠ ⟨key.heading, []⟩
  noPart : ∀ (key : Key) step steps, path ≠ ⟨key.heading, .key key.name :: step :: steps⟩
  noPosition : ∀ (key : Key) index steps, path ≠ ⟨key.heading, .position index :: steps⟩

/-- What the paths of a source give for a setting.  The last of several equal paths counts. -/
def given? (source : List (String × Value)) (key : Key) : Option Value :=
  ((source.filter fun entry => entry.1 = key.text).getLast?).map Prod.snd

theorem ofText_eq_path_iff {text : String} {key : Key} :
    KeyPath.ofText text = key.path ↔ text = key.text := by
  constructor
  · exact KeyPath.eq_of_ofText
  · rintro rfl
    cases key <;> decide +kernel

theorem field?_getD (part : Option Value) (name : String) :
    (part.getD .missing).field? name = part.bind (·.field? name) := by
  cases part <;> rfl

/-- A proper path into a section leads to one of its keys, and ends there if it is a setting's. -/
theorem Proper.steps_eq {key : Key} {steps : List PathStep} (proper : Proper ⟨key.heading, steps⟩) :
    ∃ name rest, steps = .key name :: rest ∧ (name = key.name → rest = []) := by
  rcases steps with _ | ⟨name | index, rest⟩
  · exact absurd rfl (proper.noSection key)
  · refine ⟨name, rest, rfl, ?_⟩
    rintro rfl
    cases rest with
    | nil => rfl
    | cons step steps => exact absurd rfl (proper.noPart key step steps)
  · exact absurd rfl (proper.noPosition key index rest)

theorem sections_write (tables : ∀ part : Value, part.IsTable → good part) (proper : Proper path)
    (sections : Sections good present) : Sections good (path.write written present) := by
  intro key part found
  rw [KeyPath.field?_write] at found
  split at found
  case isFalse => exact sections key part found
  case isTrue same =>
      obtain ⟨root, steps⟩ := path
      subst same
      obtain ⟨name, rest, rfl, -⟩ := proper.steps_eq
      cases found
      exact tables _ ⟨_, rfl⟩

theorem in?_write (proper : Proper path) (single : ¬ written.IsTable) (key : Key) :
    key.in? (path.write written present) =
      if path = key.path then some written else key.in? present := by
  obtain ⟨root, steps⟩ := path
  unfold Key.in?
  rw [KeyPath.field?_write]
  by_cases same : key.heading = root
  case neg =>
      have other : ⟨root, steps⟩ ≠ key.path := fun paths => same (congrArg KeyPath.root paths).symm
      rw [if_neg same, if_neg other]
  case pos =>
      subst same
      obtain ⟨name, rest, rfl, ends⟩ := proper.steps_eq
      rw [if_pos rfl, Option.bind_some, writeAlong, Value.field?_alterKey, field?_getD, field?_getD]
      by_cases here : key.name = name
      · subst here
        obtain rfl := ends rfl
        have same : (⟨key.heading, [.key key.name]⟩ : KeyPath) = key.path := rfl
        rw [if_pos rfl, if_pos same, writeAlong, Value.over_of_not_isTable single]
      · have other : (⟨key.heading, .key name :: rest⟩ : KeyPath) ≠ key.path := by
          intro paths
          cases paths
          exact here rfl
        rw [if_neg here, if_neg other]

theorem layer_append_singleton (present : Value) (source : List (String × Value))
    (entry : String × Value) : layer present (source ++ [entry]) =
      (KeyPath.ofText entry.1).write entry.2 (layer present source) := by
  rw [layer, List.foldl_append]
  rfl

theorem isTable_layer (isTable : present.IsTable) : (layer present source).IsTable := by
  induction source using List.reverseRecOn with
  | nil => exact isTable
  | append_singleton source entry _ =>
      rw [layer_append_singleton]
      exact ⟨_, rfl⟩

theorem sections_layer (tables : ∀ part : Value, part.IsTable → good part)
    (proper : ∀ entry ∈ source, Proper (KeyPath.ofText entry.1))
    (sections : Sections good present) : Sections good (layer present source) := by
  induction source using List.reverseRecOn with
  | nil => exact sections
  | append_singleton source entry ih =>
      rw [layer_append_singleton]
      apply sections_write tables (proper entry (by simp))
      exact ih fun entry member => proper entry (List.mem_append_left _ member)

/-- Of the values that are written one after the other the last one for a setting remains. -/
theorem in?_layer (proper : ∀ entry ∈ source, Proper (KeyPath.ofText entry.1))
    (single : ∀ entry ∈ source, ¬ entry.2.IsTable) (key : Key) :
    key.in? (layer present source) = (given? source key).or (key.in? present) := by
  induction source using List.reverseRecOn with
  | nil => rfl
  | append_singleton source entry ih =>
      have before := ih (fun entry member => proper entry (List.mem_append_left _ member))
        (fun entry member => single entry (List.mem_append_left _ member))
      rw [layer_append_singleton, in?_write (proper entry (by simp)) (single entry (by simp)),
        before, given?, given?, List.filter_append]
      by_cases here : entry.1 = key.text
      · rw [if_pos (ofText_eq_path_iff.mpr here)]
        simp [here]
      · rw [if_neg (mt ofText_eq_path_iff.mp here)]
        simp [here]

end Writing

section File

variable {good : Value → Prop} {written : List (String × Value)}

/-- Bare keys at the root are written as keys. -/
theorem layer_of_isBare (bare : ∀ entry ∈ written, KeyPath.IsBare entry.1) (present : Value) :
    layer present written = layEntries written present := by
  induction written generalizing present with
  | nil =>
      rw [layEntries]
      rfl
  | cons entry written ih =>
      obtain ⟨key, value⟩ := entry
      have leads : KeyPath.ofText key = ⟨key, []⟩ :=
        KeyPath.ofText_of_isBare (bare (key, value) List.mem_cons_self)
      rw [layEntries, ← ih fun entry member => bare entry (List.mem_cons_of_mem _ member)]
      change layer ((KeyPath.ofText key).write value present) written = _
      rw [leads]
      rfl

theorem sections_standardSource : Sections Value.IsTable standardSource := by
  intro key part found
  cases key <;> cases found <;> exact ⟨_, rfl⟩

theorem convertOr_standardSource (key : Key) :
    key.convertOr .lenient (key.in? standardSource) = some (key.get standard) := by
  cases key <;> rfl

theorem sections_file (tables : ∀ part : Value, part.IsTable → good part)
    (distinct : (Value.table written).Distinct)
    (bare : ∀ entry ∈ written, KeyPath.IsBare entry.1)
    (sections : Sections good (.table written)) :
    Sections good (layer standardSource written) := by
  intro key part found
  rw [layer_of_isBare bare, Value.field?_layEntries distinct.keyed.keys] at found
  split at found
  case h_1 => exact tables part (sections_standardSource key part found)
  case h_2 lower given =>
      cases found
      by_cases isTable : lower.IsTable
      · exact tables _ (Value.isTable_over.mpr isTable)
      · rw [Value.over_of_not_isTable isTable]
        exact sections key lower given

theorem convert?_of_isTable (key : Key) {value : Value} (isTable : value.IsTable) :
    key.convert? .lenient value = none := by
  obtain ⟨entries, rfl⟩ := isTable
  cases key <;> rfl

theorem convert?_over (key : Key) (value lower : Value) :
    key.convert? .lenient (value.over lower) = key.convert? .lenient value := by
  by_cases isTable : value.IsTable
  · rw [convert?_of_isTable key isTable, convert?_of_isTable key (Value.isTable_over.mpr isTable)]
  · rw [Value.over_of_not_isTable isTable]

/-- A section of the file does not take away the standard values of settings it leaves out, in
whatever way sections that are no tables are read. -/
theorem convertOr_file (distinct : (Value.table written).Distinct)
    (bare : ∀ entry ∈ written, KeyPath.IsBare entry.1) (key : Key)
    {below : Value → Option Value}
    (byName : ∀ part : Value, part.IsTable → below part = part.field? key.name) :
    key.convertOr .lenient (((layer standardSource written).field? key.heading).bind below) =
      key.convertOr .lenient (((Value.table written).field? key.heading).bind below) := by
  rw [layer_of_isBare bare, Value.field?_layEntries distinct.keyed.keys]
  change _ = key.convertOr .lenient ((written.lookup key.heading).bind below)
  cases found : written.lookup key.heading with
  | none =>
      dsimp only
      rw [bind_field?_of_tables key byName sections_standardSource]
      exact convertOr_standardSource key
  | some part =>
      dsimp only [Option.bind_some]
      by_cases isTable : part.IsTable
      -- A single value hides the standard section, but the standard values hold all the same.
      case neg => rw [Value.over_of_not_isTable isTable]
      case pos =>
          rw [byName _ (Value.isTable_over.mpr isTable), byName _ isTable]
          obtain ⟨entries, rfl⟩ := isTable
          have keys := (Toml.Keyed.of_lookup distinct.keyed found).keyed.keys
          rw [Value.field?_over keys, field?_getD]
          change _ = key.convertOr .lenient (entries.lookup key.name)
          cases entries.lookup key.name with
          | none => exact convertOr_standardSource key
          | some value => exact convert?_over key value _

end File

end Settings

end TopicBroker

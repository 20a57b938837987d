import TopicBroker.Proofs.Settings.Layers
import TopicBroker.Settings.Loading

/-!
# Settings one by one

Settings are decoded section by section.  What comes out can be told for each
setting on its own: every section has to be something that may stand for one, and
the setting is converted from what its section gives for it, or is the standard one.
A table gives its settings by name and a list gives them by position.  This holds
for the strict and for the lenient conversion.
-/

namespace TopicBroker

open Toml (Value)

/-- Whether a value may stand for a section. -/
def Conversion.IsSection (conversion : Conversion) : Value → Prop
  | .table _ | .list _ => True
  | .moment _ => conversion.momentIsSection = true
  | _ => False

namespace Settings

/-- The settings by name. -/
inductive Key where
  | logLevel
  | logFilter
  | maxQos
  | retainAvailable
  | maxTopicLevels
  | maxQueuedMessages
  | outletCapacity

namespace Key

/-- The section that a setting stands in. -/
def heading : Key → String
  | logLevel | logFilter => "log"
  | maxQos | retainAvailable => "mqtt"
  | maxTopicLevels | maxQueuedMessages | outletCapacity => "limits"

/-- The key of a setting in its section. -/
def name : Key → String
  | logLevel => "level"
  | logFilter => "filter"
  | maxQos => "max_qos"
  | retainAvailable => "retain_available"
  | maxTopicLevels => "max_topic_levels"
  | maxQueuedMessages => "max_queued_messages"
  | outletCapacity => "outbound_channel_capacity"

/-- The written path of a setting. -/
def text (key : Key) : String := key.heading ++ "." ++ key.name

def path (key : Key) : KeyPath := ⟨key.heading, [.key key.name]⟩

def Content : Key → Type
  | logLevel => String
  | logFilter => Option String
  | retainAvailable => Bool
  | maxQos | maxTopicLevels | maxQueuedMessages | outletCapacity => Nat

/-- What settings say about one of them. -/
def get : (key : Key) → Settings → key.Content
  | logLevel => Settings.logLevel
  | logFilter => Settings.logFilter
  | maxQos => Settings.maxQos
  | retainAvailable => Settings.retainAvailable
  | maxTopicLevels => Settings.maxTopicLevels
  | maxQueuedMessages => Settings.maxQueuedMessages
  | outletCapacity => Settings.outletCapacity

/-- What belongs to the section of a setting. -/
def pick {α : Type} (log mqtt limits : α) : Key → α
  | logLevel | logFilter => log
  | maxQos | retainAvailable => mqtt
  | maxTopicLevels | maxQueuedMessages | outletCapacity => limits

/-- The position of a setting in its section. -/
def position : Key → Nat
  | logLevel | maxQos | maxTopicLevels => 0
  | logFilter | retainAvailable | maxQueuedMessages => 1
  | outletCapacity => 2

/-- The names of the settings in the section of a setting, in order. -/
def names (key : Key) : List String :=
  key.pick ["level", "filter"] ["max_qos", "retain_available"]
    ["max_topic_levels", "max_queued_messages", "outbound_channel_capacity"]

/-- What a section gives for a setting: by name if it is a table, and by position if it is a
list. -/
def ofSection? (key : Key) : Value → Option Value
  | .table entries => entries.lookup key.name
  | .list items => items[key.position]?
  | _ => none

/-- The value of a setting that stands in its section. -/
def in? (key : Key) (root : Value) : Option Value :=
  (root.field? key.heading).bind (·.field? key.name)

/-- What a value gives for a setting in its section. -/
def among? (key : Key) (root : Value) : Option Value :=
  (root.field? key.heading).bind key.ofSection?

/-- The setting that a value is converted to. -/
def convert? (conversion : Conversion) : (key : Key) → Value → Option key.Content
  | logLevel => conversion.text?
  | logFilter => conversion.optionalText?
  | maxQos => conversion.number? Conversion.greatestQos
  | retainAvailable => conversion.flag?
  | maxTopicLevels | maxQueuedMessages | outletCapacity => conversion.number? Text.maxUInt64

/-- The setting that a value is converted to if there is one, and the standard one otherwise. -/
def convertOr (conversion : Conversion) (key : Key) : Option Value → Option key.Content
  | some value => key.convert? conversion value
  | none => some (key.get standard)

end Key

/-- Every section that a value has is as asked for. -/
def Sections (good : Value → Prop) (root : Value) : Prop :=
  ∀ (key : Key) (part : Value), root.field? key.heading = some part → good part

section Reading

variable {root : Value} (key : Key)

theorem ofSection?_of_isTable {part : Value} (isTable : part.IsTable) :
    key.ofSection? part = part.field? key.name := by
  obtain ⟨entries, rfl⟩ := isTable
  rfl

/-- Whatever reads tables by name reads settings from tables as they stand there. -/
theorem bind_field?_of_tables {below : Value → Option Value}
    (byName : ∀ part : Value, part.IsTable → below part = part.field? key.name)
    (tables : Sections Value.IsTable root) : (root.field? key.heading).bind below = key.in? root := by
  unfold Key.in?
  cases found : root.field? key.heading with
  | none => rfl
  | some part => exact byName part (tables key part found)

theorem isSection_of_isTable (conversion : Conversion) (part : Value) (isTable : part.IsTable) :
    conversion.IsSection part := by
  obtain ⟨entries, rfl⟩ := isTable
  trivial

end Reading

section Decoding

variable {conversion : Conversion} {entries : List (String × Value)} {settings : Settings}

theorem exists_memberOf?_iff {names : List String} {part : Option Value} :
    (∃ given, conversion.memberOf? names part = some given) ↔
      ∀ value, part = some value → conversion.IsSection value := by
  rcases part with _ | value
  · simp [Conversion.memberOf?]
  · cases value with
    | moment text =>
        by_cases allowed : conversion.momentIsSection = true <;>
          simp [Conversion.memberOf?, Conversion.members?, Conversion.IsSection, allowed]
    | _ => simp [Conversion.memberOf?, Conversion.members?, Conversion.IsSection]

theorem join_of_memberOf? {part : Option Value} {given : List (Option Value)} (key : Key)
    (members : conversion.memberOf? key.names part = some given) :
    given[key.position]?.join = part.bind key.ofSection? := by
  rcases part with _ | value
  · cases members
    cases key <;> rfl
  · cases value with
    | table entries =>
        cases members
        cases key <;> rfl
    | list items =>
        cases members
        cases key <;> rfl
    | moment text =>
        simp only [Conversion.memberOf?, Conversion.members?] at members
        split at members
        · cases members
          cases key <;> rfl
        · cases members
    | _ => cases members

/-- Settings from what is read for each of them. -/
def collected (read : (key : Key) → Option key.Content) : Option Settings := do
  return {
    logLevel := ← read .logLevel
    logFilter := ← read .logFilter
    maxQos := ← read .maxQos
    retainAvailable := ← read .retainAvailable
    maxTopicLevels := ← read .maxTopicLevels
    maxQueuedMessages := ← read .maxQueuedMessages
    outletCapacity := ← read .outletCapacity }

theorem collected_eq_some_iff {read : (key : Key) → Option key.Content} :
    collected read = some settings ↔ ∀ key, read key = some (key.get settings) := by
  constructor
  · intro collects key
    simp only [collected, bind, Option.bind_eq_some_iff, pure, Option.some.injEq] at collects
    obtain ⟨_, logLevel, _, logFilter, _, maxQos, _, retainAvailable, _, maxTopicLevels,
      _, maxQueuedMessages, _, outletCapacity, rfl⟩ := collects
    cases key <;> assumption
  · intro reads
    simp only [collected, reads]
    rfl

theorem convertOr_among? {root : Value} {given : List (Option Value)} (key : Key)
    (members : conversion.memberOf? key.names (root.field? key.heading) = some given) :
    key.convertOr conversion (key.among? root) =
      Conversion.settingOr (key.convert? conversion) (key.get standard) given[key.position]? := by
  rw [Key.among?, ← join_of_memberOf? key members]
  rcases given[key.position]? with _ | _ | value <;> rfl

theorem settings?_eq_collected (conversion : Conversion) (entries : List (String × Value)) :
    conversion.settings? (.table entries) =
      (conversion.memberOf? Key.logLevel.names
        ((Value.table entries).field? Key.logLevel.heading)).bind fun log =>
      (conversion.memberOf? Key.maxQos.names
        ((Value.table entries).field? Key.maxQos.heading)).bind fun mqtt =>
      (conversion.memberOf? Key.maxTopicLevels.names
        ((Value.table entries).field? Key.maxTopicLevels.heading)).bind fun limits =>
      collected fun key => Conversion.settingOr (key.convert? conversion) (key.get standard)
        (key.pick log mqtt limits)[key.position]? := rfl

/-- There are settings if every section may be one and every setting can be converted. -/
theorem settings?_eq_some_iff :
    conversion.settings? (.table entries) = some settings ↔
      Sections conversion.IsSection (.table entries) ∧
        ∀ key : Key, key.convertOr conversion (key.among? (.table entries)) =
          some (key.get settings) := by
  rw [settings?_eq_collected]
  constructor
  · intro gives
    obtain ⟨log, logGiven, gives⟩ := Option.bind_eq_some_iff.mp gives
    obtain ⟨mqtt, mqttGiven, gives⟩ := Option.bind_eq_some_iff.mp gives
    obtain ⟨limits, limitsGiven, gives⟩ := Option.bind_eq_some_iff.mp gives
    have members (key : Key) : conversion.memberOf? key.names
        ((Value.table entries).field? key.heading) = some (key.pick log mqtt limits) := by
      cases key <;> assumption
    refine ⟨fun key => exists_memberOf?_iff.mp ⟨_, members key⟩, fun key => ?_⟩
    rw [convertOr_among? key (members key)]
    exact collected_eq_some_iff.mp gives key
  · rintro ⟨sections, converts⟩
    obtain ⟨log, logGiven⟩ := exists_memberOf?_iff.mpr (sections .logLevel)
    obtain ⟨mqtt, mqttGiven⟩ := exists_memberOf?_iff.mpr (sections .maxQos)
    obtain ⟨limits, limitsGiven⟩ := exists_memberOf?_iff.mpr (sections .maxTopicLevels)
    have members (key : Key) : conversion.memberOf? key.names
        ((Value.table entries).field? key.heading) = some (key.pick log mqtt limits) := by
      cases key <;> assumption
    rw [logGiven, Option.bind_some, mqttGiven, Option.bind_some, limitsGiven, Option.bind_some,
      collected_eq_some_iff]
    intro key
    rw [← convertOr_among? key (members key)]
    exact converts key

/-- Sections that are tables give their settings one by one. -/
theorem settings?_of_tables (conversion : Conversion)
    (tables : Sections Value.IsTable (.table entries)) :
    conversion.settings? (.table entries) =
      collected fun key => key.convertOr conversion (key.in? (.table entries)) := by
  have byName (key : Key) : key.among? (.table entries) = key.in? (.table entries) :=
    bind_field?_of_tables key (fun _ => ofSection?_of_isTable key) tables
  apply Option.ext
  intro settings
  rw [settings?_eq_some_iff, collected_eq_some_iff]
  simp only [byName]
  refine and_iff_right fun key part found => ?_
  exact isSection_of_isTable conversion part (tables key part found)

theorem isTable_of_settings? (noList : Sections (fun part => ¬ part.IsList) (.table entries))
    (gives : Conversion.lenient.settings? (.table entries) = some settings) :
    Sections Value.IsTable (.table entries) := by
  intro key part found
  have isSection := (settings?_eq_some_iff.mp gives).1 key part found
  cases part with
  | table entries => exact ⟨entries, rfl⟩
  | list items => exact absurd ⟨items, rfl⟩ (noList key _ found)
  | moment text => cases isSection
  | _ => exact isSection.elim

end Decoding

end Settings

end TopicBroker

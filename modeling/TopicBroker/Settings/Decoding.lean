import TopicBroker.Settings.Basic
import TopicBroker.Text.Numeral
import TopicBroker.Text.Shortest
import TopicBroker.Toml.Value

/-!
# From values to settings

Settings stand in three sections of a table.  A section is itself a table, or a list
that gives its settings by position; keys that name no setting are ignored, and
a setting that is not given has its standard value.

How a single value becomes a text, a number or a truth value depends on where
the settings come from.  `Conversion.strict` takes only values of the right type, and
`Conversion.lenient` also converts between types as far as that makes sense.
-/

namespace TopicBroker

open Toml (Value)

/-- How single values are read. -/
structure Conversion where
  text? : Value → Option String
  /-- A text that may be left out; the outer `none` stands for a value of a wrong type. -/
  optionalText? : Value → Option (Option String)
  /-- A number up to the given one. -/
  number? : (greatest : Nat) → Value → Option Nat
  flag? : Value → Option Bool
  /-- Whether a moment may stand for a section without settings. -/
  momentIsSection : Bool

namespace Conversion

/-- A number that is not negative and not above the greatest one. -/
def inRange? (greatest : Nat) (number : Int) : Option Nat :=
  if 0 ≤ number ∧ number ≤ greatest then some number.toNat else none

def strictText? : Value → Option String
  | .text text => some text
  | _ => none

def strictNumber? (greatest : Nat) : Value → Option Nat
  | .integer number => inRange? greatest number
  | _ => none

def strictFlag? : Value → Option Bool
  | .boolean flag => some flag
  | _ => none

/-- Only values of the right type are taken. -/
def strict : Conversion where
  text? := strictText?
  optionalText? value := (strictText? value).map some
  number? := strictNumber?
  flag? := strictFlag?
  momentIsSection := true

/-- The words for yes and no, in either case. -/
def wordFlag? (text : String) : Option Bool :=
  let word := String.ofList (Text.asciiLower text.toList)
  if word ∈ ["true", "on", "yes"] then some true
  else if word ∈ ["false", "off", "no"] then some false
  else none

/-- Truth values and numbers are taken by their texts. -/
def lenientText? : Value → Option String
  | .boolean flag => some (toString flag)
  | .integer number => some (toString number)
  | .float number => some (Text.ofFloat number)
  | .text text => some text
  | .moment text => some text
  | _ => none

/-- The number of a text: a word for yes or no, or an unsigned number. -/
def textNumber? (text : String) : Option Nat :=
  match wordFlag? text with
  | some flag => some flag.toNat
  | none => (Text.unsigned? text.toList).filter (· ≤ Text.maxUInt64)

/-- Truth values are taken as one and zero, and floats are rounded, with a half going away from
zero; what is below zero then counts as zero. -/
def lenientNumber? (greatest : Nat) (value : Value) : Option Nat :=
  let number := match value with
    | .boolean flag => some flag.toNat
    | .integer number => inRange? Text.maxUInt64 number
    | .float number => some number.round.toUInt64.toNat
    | .text text => textNumber? text
    | .moment text => textNumber? text
    | _ => none
  number.filter (· ≤ greatest)

/-- The truth value of a text: a word for yes or no, or the digit one or zero. -/
def textFlag? (text : String) : Option Bool :=
  if text = "1" then some true
  else if text = "0" then some false
  else wordFlag? text

/-- Numbers other than zero are taken as true. -/
def lenientFlag? : Value → Option Bool
  | .boolean flag => some flag
  | .integer number => some (number ≠ 0)
  | .float number => some (number != 0.0)
  | .text text => textFlag? text
  | .moment text => textFlag? text
  | _ => none

/-- Values are converted between types. -/
def lenient : Conversion where
  text? := lenientText?
  optionalText? value := match value with
    | .missing => some none
    | value => (lenientText? value).map some
  number? := lenientNumber?
  flag? := lenientFlag?
  momentIsSection := false

/-- What a section gives for the settings with the given names, in order. -/
def members? (conversion : Conversion) (names : List String) (part : Value) :
    Option (List (Option Value)) :=
  match part with
  | .table entries => some (names.map fun name => entries.lookup name)
  | .list items => some ((List.range names.length).map fun position => items[position]?)
  | .moment _ => if conversion.momentIsSection then some (names.map fun _ => none) else none
  | _ => none

/-- What a section that may be left out gives for the settings with the given names. -/
def memberOf? (conversion : Conversion) (names : List String) (part : Option Value) :
    Option (List (Option Value)) :=
  match part with
  | none => some (names.map fun _ => none)
  | some part => conversion.members? names part

/-- The setting that a value gives, or its standard value if there is none. -/
def settingOr {α : Type} (read : Value → Option α) (standard : α) : Option (Option Value) → Option α
  | some (some value) => read value
  | _ => some standard

/-- The greatest number that the setting for guarantees can hold. -/
def greatestQos : Nat := 255

/-- The settings that a value gives. -/
def settings? (conversion : Conversion) (root : Value) : Option Settings := do
  let standard := Settings.standard
  let sections ← conversion.members? ["log", "mqtt", "limits"] root
  let log ← conversion.memberOf? ["level", "filter"] sections[0]?.join
  let mqtt ← conversion.memberOf? ["max_qos", "retain_available"] sections[1]?.join
  let limits ← conversion.memberOf?
    ["max_topic_levels", "max_queued_messages", "outbound_channel_capacity"] sections[2]?.join
  let size := conversion.number? Text.maxUInt64
  return {
    logLevel := ← settingOr conversion.text? standard.logLevel log[0]?
    logFilter := ← settingOr conversion.optionalText? standard.logFilter log[1]?
    maxQos := ← settingOr (conversion.number? greatestQos) standard.maxQos mqtt[0]?
    retainAvailable := ← settingOr conversion.flag? standard.retainAvailable mqtt[1]?
    maxTopicLevels := ← settingOr size standard.maxTopicLevels limits[0]?
    maxQueuedMessages := ← settingOr size standard.maxQueuedMessages limits[1]?
    outletCapacity := ← settingOr size standard.outletCapacity limits[2]? }

end Conversion

end TopicBroker

import Std.Data.ExtTreeMap
import TopicBroker.Settings.KeyPath
import TopicBroker.Text.Lowercase

/-!
# Settings in environment variables

An environment variable whose name starts with `VIBEMQ__`, in either case, overrides a setting.
The rest of the name is the path of the setting in lowercase, with two
underscores in place of each dot.  The value is a truth value, a whole
number or a float if it can be read as one, and otherwise a text.
-/

namespace TopicBroker

open Toml (Value)

/-- The environment variables that are set, by name. -/
abbrev Environment := Std.ExtTreeMap String String

namespace Environment

/-- The beginning of the names of all variables that override settings, in lowercase. -/
def namespaceText : List Char := "vibemq__".toList

/-- The text with a dot in place of every two underscores, from left to right. -/
def dotted : List Char → List Char
  | '_' :: '_' :: rest => '.' :: dotted rest
  | first :: rest => first :: dotted rest
  | [] => []

/-- The setting that a variable overrides, by its written path. -/
def settingOf? (name : String) : Option String :=
  let name := Text.lower name.toList
  if namespaceText.isPrefixOf name then
    some (String.ofList (dotted (name.drop namespaceText.length)))
  else none

/-- The value that a text stands for. -/
def valueOf (text : String) : Value :=
  let word := Text.asciiLower text.toList
  if word = "true".toList then .boolean true
  else if word = "false".toList then .boolean false
  else
    match (Text.signed? text.toList).bind Text.inInt64? with
    | some number => .integer number
    | none =>
      match Text.float? text.toList with
      | some number => .float number
      | none => .text text

/-- The settings that are overridden, by their written paths, each with its value. -/
def overrides (environment : Environment) : List (String × Value) :=
  environment.toList.filterMap fun (name, text) =>
    (settingOf? name).map (·, valueOf text)

end Environment

end TopicBroker

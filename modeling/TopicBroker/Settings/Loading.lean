import TopicBroker.Settings.Decoding
import TopicBroker.Settings.Environment
import TopicBroker.Settings.Placeholder
import TopicBroker.Toml.Document

/-!
# Reading settings

Settings are read from a document alone, or put together from three sources:
the standard values, a settings file with placeholders, and environment
variables.  The sources are laid over each other in this order, key by key,
so that each setting comes from the last source that gives it.
-/

namespace TopicBroker

open Toml (Value)

/-- What is found in place of the settings file. -/
inductive SettingsFile where
  | absent
  | unreadable
  | content (bytes : ByteArray)

namespace Settings

/-- The settings that a document in the first version of the format gives on its own. -/
def parse (document : String) : Except SettingsError Settings :=
  match (Toml.parse? .first document).bind Conversion.strict.settings? with
  | none => .error .undecodable
  | some settings => settings.validate

/-- The standard values as a source of settings. -/
def standardSource : Value :=
  .table [
    ("log", .table [("level", .text "info")]),
    ("mqtt", .table [("max_qos", .integer 2), ("retain_available", .boolean true)]),
    ("limits", .table [("max_topic_levels", .integer 0), ("max_queued_messages", .integer 1),
      ("outbound_channel_capacity", .integer 1024)])]

/-- Lay a source over the settings put together so far, one written path after the other. -/
def layer (present : Value) (source : List (String × Value)) : Value :=
  source.foldl (fun present (path, value) => (KeyPath.ofText path).write value present) present

/-- The text of a settings file with values in place of its placeholders. -/
def substituted (environment : Environment) (text : String) : String :=
  let value? (name : List Char) := environment[String.ofList name]?.map String.toList
  String.ofList (Placeholder.substitute value? text.toList)

/-- What a settings file in the later version of the format gives, if there is one. -/
def fileSource (environment : Environment) :
    SettingsFile → Except SettingsError (List (String × Value))
  | .absent => .ok []
  | .unreadable => .error .unreadable
  | .content bytes =>
    match String.fromUTF8? bytes with
    | none => .error .unreadable
    | some text =>
      match Toml.parse? .later (substituted environment text) with
      | none => .error .inconvertible
      | some document => .ok document.entries

/-- The settings that all sources give together. -/
def load (file : SettingsFile) (environment : Environment) : Except SettingsError Settings := do
  let written ← fileSource environment file
  let gathered := layer (layer standardSource written) environment.overrides
  match Conversion.lenient.settings? gathered with
  | none => .error .inconvertible
  | some settings => settings.validate

/-- The settings that the standard values and the environment variables give together. -/
def fromEnvironment (environment : Environment) : Except SettingsError Settings :=
  load .absent environment

end Settings

end TopicBroker

import TopicBroker.Broker.Basic
import TopicBroker.Log.Filter

/-!
# Settings

The settings of a broker as people write them: how much is logged, which
features are offered, and how much is kept.  Settings are checked once after
they are read, and settings that pass determine a broker's settings.
-/

namespace TopicBroker

/-- The settings of a broker as they are written. -/
structure Settings where
  logLevel : String
  /-- Log directives laid over the level. -/
  logFilter : Option String
  /-- The number of the strongest guarantee that is granted. -/
  maxQos : Nat
  retainAvailable : Bool
  /-- The most levels of a topic or filter; zero stands for no limit. -/
  maxTopicLevels : Nat
  /-- The most messages that wait for one client that is away. -/
  maxQueuedMessages : Nat
  /-- The room of a connection's outlet. -/
  outletCapacity : Nat
  deriving DecidableEq, Repr

/-- Why settings are refused although they can be read. -/
inductive SettingsFault where
  | qosOutOfRange
  | unknownLevel (given : String)
  | noOutletRoom
  | malformedLogFilter (directives : String)
  deriving DecidableEq, Repr

/-- Why there are no settings. -/
inductive SettingsError where
  /-- The file cannot be read, or is no text. -/
  | unreadable
  /-- The text is no document, or its values have the wrong types. -/
  | undecodable
  /-- The sources do not go together, or their values cannot be converted. -/
  | inconvertible
  | invalid (fault : SettingsFault)
  deriving DecidableEq, Repr

def SettingsFault.message : SettingsFault → String
  | qosOutOfRange => "max_qos must be 0, 1, or 2"
  | unknownLevel given =>
    "log.level must be one of " ++ ", ".intercalate (LogLevel.all.map LogLevel.name) ++
      ", got '" ++ given ++ "'"
  | noOutletRoom => "outbound_channel_capacity must be at least 1"
  | malformedLogFilter directives =>
    "invalid log filter '" ++ directives ++ "': malformed directive"

def SettingsError.message : SettingsError → String
  | unreadable => "IO error"
  | undecodable => "Parse error"
  | inconvertible => "Config error"
  | invalid fault => "Validation error: " ++ fault.message

namespace Settings

/-- The settings that hold where nothing else is written. -/
def standard : Settings where
  logLevel := "info"
  logFilter := none
  maxQos := 2
  retainAvailable := true
  maxTopicLevels := 0
  maxQueuedMessages := 1
  outletCapacity := 1024

instance : Inhabited Settings := ⟨standard⟩

/-- Whether a text names a log level, where the case of ASCII letters does not matter. -/
def namesLevel (text : String) : Bool :=
  LogLevel.all.any fun level => level.name.toList = Text.asciiLower text.toList

/-- The first fault of settings. -/
def fault? (settings : Settings) : Option SettingsFault :=
  if 2 < settings.maxQos then some .qosOutOfRange
  else if !namesLevel settings.logLevel then some (.unknownLevel settings.logLevel)
  else if settings.outletCapacity = 0 then some .noOutletRoom
  else none

/-- Let settings pass if they have no fault. -/
def validate (settings : Settings) : Except SettingsError Settings :=
  match settings.fault? with
  | some fault => .error (.invalid fault)
  | none => .ok settings

/-- The settings of the broker.  A guarantee that does not exist stands for the strongest one. -/
def toBroker (settings : Settings) : BrokerSettings where
  maxQos := (Qos.ofNat? settings.maxQos).getD .exactlyOnce
  retainAvailable := settings.retainAvailable
  maxTopicLevels := settings.maxTopicLevels
  maxQueuedMessages := settings.maxQueuedMessages
  outletCapacity := settings.outletCapacity

end Settings

/-- The log filter that a level and further directives ask for. -/
def LogFilter.layered (level : String) (further : Option String) : Except SettingsError LogFilter :=
  match LogFilter.layered? level further with
  | some filter => .ok filter
  | none => .error (.invalid (.malformedLogFilter (LogFilter.layeredText level further)))

end TopicBroker

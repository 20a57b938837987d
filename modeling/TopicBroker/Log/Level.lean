import TopicBroker.Text.Lowercase

/-!
# Log levels

A log level names the least important kind of event that is still reported.
Settings give it by name; a name that is not known reports warnings and errors.
-/

namespace TopicBroker

/-- The least important kind of event that is reported. -/
inductive LogLevel where
  | error
  | warn
  | info
  | debug
  | trace
  deriving DecidableEq, Repr

namespace LogLevel

/-- The levels from the fewest to the most events. -/
def all : List LogLevel := [error, warn, info, debug, trace]

/-- The name of a level in lowercase. -/
def name : LogLevel → String
  | error => "error"
  | warn => "warn"
  | info => "info"
  | debug => "debug"
  | trace => "trace"

/-- The level of a name in lowercase. -/
def ofName? (name : String) : Option LogLevel :=
  all.find? fun level => level.name = name

/-- The level that a text asks for, in either case. -/
def parse (text : String) : LogLevel :=
  (ofName? (String.ofList (Text.lower text.toList))).getD warn

/-- The name of a level in capitals. -/
def title (level : LogLevel) : String := level.name.toUpper

end LogLevel

end TopicBroker

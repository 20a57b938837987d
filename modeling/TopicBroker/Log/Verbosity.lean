import TopicBroker.Log.Level
import TopicBroker.Text.Numeral

/-!
# Verbosities

A verbosity says how much is reported: nothing, or all events down to a level.
Log filters write it as a word or as its position between nothing and everything.
-/

namespace TopicBroker

/-- How much is reported: nothing, or the events down to a level. -/
inductive Verbosity where
  | off
  | upTo (level : LogLevel)
  deriving DecidableEq, Repr

namespace Verbosity

/-- From nothing to everything. -/
def all : List Verbosity := off :: LogLevel.all.map upTo

/-- Everything is reported. -/
def full : Verbosity := upTo .trace

/-- The word for a verbosity, in lowercase. -/
def name : Verbosity → String
  | off => "off"
  | upTo level => level.name

/-- The verbosity that a text asks for: its position in `all`, or its word in either case. -/
def parse? (text : List Char) : Option Verbosity :=
  ((Text.unsigned? text).bind fun position => all[position]?).or
    (all.find? fun verbosity => verbosity.name.toList = Text.asciiLower text)

end Verbosity

end TopicBroker

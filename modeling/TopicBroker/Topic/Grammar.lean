import TopicBroker.Topic.Levels

/-!
# Which texts are topic names and topic filters

A topic name is a non-empty text of bounded length without the null character
and without wildcards.  A topic filter may hold wildcards, but each of them
must be a whole level, and the wildcard for all remaining levels must be the
last one.  Both may be limited to a number of levels.

A text with several faults is refused for the first of them, in the order in
which the faults are listed in `NameFault` and `FilterFault`; the faults of the
single levels of a filter are looked for from left to right.
-/

namespace TopicBroker

/-- Why a text is no topic name. -/
inductive NameFault where
  | empty
  | tooLong
  | nullCharacter
  | wildcard
  | tooManyLevels
  /-- The empty text was to be cut into levels without being checked as a name first. -/
  | nothingToSplit
  deriving DecidableEq, Repr

/-- Why a text is no topic filter. -/
inductive FilterFault where
  | empty
  | tooLong
  | nullCharacter
  | tooManyLevels
  | multiInsideLevel
  | multiNotLast
  | singleInsideLevel
  deriving DecidableEq, Repr

/-- A topic name or a topic filter was refused. -/
inductive TopicError where
  | invalidName (fault : NameFault)
  | invalidFilter (fault : FilterFault)
  deriving DecidableEq, Repr

def NameFault.message : NameFault → String
  | empty => "topic name cannot be empty"
  | tooLong => "topic name exceeds maximum length"
  | nullCharacter => "topic name cannot contain null character"
  | wildcard => "topic name cannot contain wildcards"
  | tooManyLevels => "topic exceeds maximum allowed levels"
  | nothingToSplit => "topic cannot be empty"

def FilterFault.message : FilterFault → String
  | empty => "topic filter cannot be empty"
  | tooLong => "topic filter exceeds maximum length"
  | nullCharacter => "topic filter cannot contain null character"
  | tooManyLevels => "topic filter exceeds maximum allowed levels"
  | multiInsideLevel => "multi-level wildcard must occupy entire level"
  | multiNotLast => "multi-level wildcard must be last level"
  | singleInsideLevel => "single-level wildcard must occupy entire level"

def TopicError.message : TopicError → String
  | invalidName fault => "invalid topic: " ++ fault.message
  | invalidFilter fault => "invalid topic filter: " ++ fault.message

/-- The most bytes that a topic name or filter may take in UTF-8. -/
def maxTopicBytes : Nat := 65535

/-- Whether a limit on the number of levels is passed; the limit zero stands for none. -/
def exceedsLimit (count limit : Nat) : Bool :=
  decide (0 < limit) && decide (limit < count)

/-- The first fault of a text as a topic name. -/
def nameFault? (maxLevels : Nat) (topic : String) : Option NameFault :=
  if topic = "" then some .empty
  else if topic.utf8ByteSize > maxTopicBytes then some .tooLong
  else if '\x00' ∈ topic.toList then some .nullCharacter
  else if '+' ∈ topic.toList ∨ '#' ∈ topic.toList then some .wildcard
  else if exceedsLimit (levelsOf topic).length maxLevels then some .tooManyLevels
  else none

/-- The first fault of a level of a filter, given whether the level is the last one. -/
def levelFault? (last : Bool) (level : String) : Option FilterFault :=
  if '#' ∈ level.toList ∧ level ≠ LevelPattern.multiText then some .multiInsideLevel
  else if '#' ∈ level.toList ∧ ¬ last then some .multiNotLast
  else if '+' ∈ level.toList ∧ level ≠ LevelPattern.singleText then some .singleInsideLevel
  else none

/-- The first fault of any level of a filter, from left to right. -/
def levelsFault? : List String → Option FilterFault
  | [] => none
  | level :: rest => (levelFault? rest.isEmpty level).or (levelsFault? rest)

/-- The first fault of a text as a topic filter. -/
def filterFault? (maxLevels : Nat) (filter : String) : Option FilterFault :=
  if filter = "" then some .empty
  else if filter.utf8ByteSize > maxTopicBytes then some .tooLong
  else if '\x00' ∈ filter.toList then some .nullCharacter
  else if exceedsLimit (levelsOf filter).length maxLevels then some .tooManyLevels
  else levelsFault? (levelsOf filter)

/-- Check a topic name. -/
def checkName (maxLevels : Nat) (topic : String) : Except TopicError Unit :=
  match nameFault? maxLevels topic with
  | some fault => .error (.invalidName fault)
  | none => .ok ()

/-- Check a topic filter. -/
def checkFilter (maxLevels : Nat) (filter : String) : Except TopicError Unit :=
  match filterFault? maxLevels filter with
  | some fault => .error (.invalidFilter fault)
  | none => .ok ()

/-- The levels of a text that need not be a topic name but must not be empty. -/
def splitTopic (topic : String) : Except TopicError (List String) :=
  if topic = "" then .error (.invalidName .nothingToSplit)
  else .ok (levelsOf topic)

/-- The levels of a topic name, if the text is one. -/
def parseName (maxLevels : Nat) (topic : String) : Except TopicError (List String) := do
  checkName maxLevels topic
  splitTopic topic

/-- The levels of a topic filter, if the text is one. -/
def parseFilter (maxLevels : Nat) (filter : String) : Except TopicError (List String) := do
  checkFilter maxLevels filter
  return levelsOf filter

end TopicBroker

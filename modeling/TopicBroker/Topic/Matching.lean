import TopicBroker.Topic.Levels

/-!
# Matching one topic against one filter

The matcher walks filter and topic side by side, level by level.  It is
defined on all level lists, also on those that no valid filter or topic name
has: a `#` that is not last matches nothing, and a `+` or `#` in the topic is
a level like any other.
-/

namespace TopicBroker

/-- Whether the filter levels match the topic levels. -/
def matchesLevels : (filter : List String) → (topic : List String) → Bool
  | [], topic => topic.isEmpty
  | level :: filter, topic =>
    match LevelPattern.ofLevel level, topic with
    | .multi, _ => filter.isEmpty
    | .single, [] => false
    | .single, head :: rest => head ≠ "" && matchesLevels filter rest
    | .literal _, [] => false
    | .literal text, head :: rest => head = text && matchesLevels filter rest

/-- Whether the text of a filter matches the text of a topic; neither is checked for validity. -/
def topicMatches (filter topic : String) : Bool :=
  matchesLevels (levelsOf filter) (levelsOf topic)

end TopicBroker

import TopicBroker.Message
import TopicBroker.Topic.Grammar
import TopicBroker.Trie.Search

/-!
# Retained messages

Each topic retains at most one message, the last one that was to be retained.
An empty payload is never retained: it clears what the topic retains.  A filter
selects the retained messages of all topics that it matches.
-/

namespace TopicBroker

/-- The retained messages of all topics. -/
structure Retained where
  trie : Trie (Option RetainedMessage)
  /-- The most levels that a topic or filter may have; zero stands for no limit. -/
  maxLevels : Nat
  /-- The number of topics that retain a message. -/
  count : Nat

namespace Retained

/-- No retained messages, under the given limit. -/
def empty (maxLevels : Nat) : Retained :=
  ⟨Trie.empty, maxLevels, 0⟩

instance : Inhabited Retained := ⟨empty 0⟩

/-- Retain a message on a topic in place of what the topic retains, or clear that if the payload is
empty. -/
def retain (retained : Retained) (topic : String) (payload : Payload) (qos : Qos) :
    Except TopicError Retained := do
  let path ← parseName retained.maxLevels topic
  if payload.isEmpty then
    let (trie, cleared) := retained.trie.update path fun slot => (none, slot.isSome)
    let count := if cleared.getD false then retained.count - 1 else retained.count
    return { retained with trie, count }
  else
    let (trie, replaced) := retained.trie.upsert path fun slot =>
      (some ⟨payload, qos⟩, slot.isSome)
    let count := if replaced then retained.count else retained.count + 1
    return { retained with trie, count }

/-- The message that a topic retains; a text that is no topic name retains none. -/
def get? (retained : Retained) (topic : String) : Option RetainedMessage :=
  match parseName retained.maxLevels topic with
  | .error _ => none
  | .ok path => (retained.trie.get? path).join

/-- The retained messages of the topics that a filter matches, each with its topic, and with a
guarantee that is no stronger than the given one. -/
def select (retained : Retained) (filter : String) (qos : Qos) :
    Except TopicError (List (String × RetainedMessage)) := do
  let levels ← parseFilter retained.maxLevels filter
  return (retained.trie.select levels).filterMap fun (path, slot) =>
    slot.map fun message => (joinLevels path, { message with qos := min message.qos qos })

def isEmpty (retained : Retained) : Bool := retained.count == 0

def nodeCount (retained : Retained) : Nat := retained.trie.nodeCount

end Retained

end TopicBroker

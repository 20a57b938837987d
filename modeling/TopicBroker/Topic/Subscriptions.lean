import Std.Data.ExtTreeMap
import TopicBroker.Message
import TopicBroker.Topic.Grammar
import TopicBroker.Trie.Search

/-!
# Subscriptions

The subscriptions of all clients, stored by topic filter: the node of a filter
holds the clients that are subscribed to exactly this filter, each with the
guarantee it was granted.  A published topic goes to the clients at every
filter that matches it; a client with several such filters is listed once for
each of them.

The number of subscriptions is kept beside them, so that reading it does not
walk the whole trie.
-/

namespace TopicBroker

/-- The clients subscribed to one filter, each with the guarantee it was granted. -/
abbrev Subscribers := Std.ExtTreeMap String Qos

instance : Vacancy Subscribers where
  vacant := ∅
  isVacant := Std.ExtTreeMap.isEmpty
  isVacant_vacant := Std.ExtTreeMap.isEmpty_empty

/-- The subscriptions of all clients. -/
structure Subscriptions where
  trie : Trie Subscribers
  /-- The strongest guarantee that is granted. -/
  maxQos : Qos
  /-- The most levels that a filter or topic may have; zero stands for no limit. -/
  maxLevels : Nat
  /-- The number of pairs of a filter and a client subscribed to it. -/
  count : Nat

namespace Subscriptions

/-- No subscriptions, under the given limits. -/
def empty (maxQos : Qos) (maxLevels : Nat) : Subscriptions :=
  ⟨Trie.empty, maxQos, maxLevels, 0⟩

/-- Without limits of its own, the strongest guarantee is granted and levels are not counted. -/
instance : Inhabited Subscriptions := ⟨empty .exactlyOnce 0⟩

/-- Subscribe a client to a filter, or change the guarantee of its subscription, and give the
guarantee that it is granted. -/
def subscribe (subscriptions : Subscriptions) (filter client : String) (qos : Qos) :
    Except TopicError (Subscriptions × Qos) := do
  let path ← parseFilter subscriptions.maxLevels filter
  let granted := min qos subscriptions.maxQos
  let (trie, known) := subscriptions.trie.upsert path fun subscribers =>
    (subscribers.insert client granted, subscribers.contains client)
  let count := if known then subscriptions.count else subscriptions.count + 1
  return ({ subscriptions with trie, count }, granted)

/-- Remove the subscription of a client to a filter, and tell whether there was one. -/
def unsubscribe (subscriptions : Subscriptions) (filter client : String) :
    Except TopicError (Subscriptions × Bool) := do
  let path ← parseFilter subscriptions.maxLevels filter
  let (trie, removed) := subscriptions.trie.update path fun subscribers =>
    (subscribers.erase client, subscribers.contains client)
  let removed := removed.getD false
  let count := if removed then subscriptions.count - 1 else subscriptions.count
  return ({ subscriptions with trie, count }, removed)

/-- Remove all subscriptions of a client, and tell how many there were. -/
def unsubscribeAll (subscriptions : Subscriptions) (client : String) : Subscriptions × Nat :=
  let (trie, removals) := subscriptions.trie.updateAll fun subscribers =>
    (subscribers.erase client, subscribers.contains client)
  let removed := removals.count true
  ({ subscriptions with trie, count := subscriptions.count - removed }, removed)

/-- The clients that a message on the topic goes to, each with the guarantee it was granted, once
for each of its matching filters. -/
def recipients (subscriptions : Subscriptions) (topic : String) :
    Except TopicError (List (String × Qos)) := do
  let levels ← parseName subscriptions.maxLevels topic
  return (subscriptions.trie.matching levels).flatMap Std.ExtTreeMap.toList

/-- The filters that a client is subscribed to, each with the guarantee it was granted. -/
def filtersOf (subscriptions : Subscriptions) (client : String) : List (String × Qos) :=
  subscriptions.trie.toList.filterMap fun (path, subscribers) =>
    subscribers[client]?.map (joinLevels path, ·)

/-- The clients subscribed to exactly this filter.  There are none to speak of if the text is no
filter or if no stored filter begins with it. -/
def subscribersOf? (subscriptions : Subscriptions) (filter : String) : Option Subscribers :=
  match parseFilter subscriptions.maxLevels filter with
  | .error _ => none
  | .ok path => subscriptions.trie.get? path

def isEmpty (subscriptions : Subscriptions) : Bool := subscriptions.count == 0

def nodeCount (subscriptions : Subscriptions) : Nat := subscriptions.trie.nodeCount

end Subscriptions

end TopicBroker

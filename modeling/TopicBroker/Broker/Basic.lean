import TopicBroker.Session.Registry
import TopicBroker.Topic.Retained
import TopicBroker.Topic.Subscriptions

/-!
# The broker's state and the outcome of its operations

The broker's state is made of three parts that are changed together: the
subscriptions, the retained messages and the registry of sessions.  Every
operation is a function of the state.  Its outcome holds the answer, the next
state, and the messages that are handed to connections, in the order in which
they are handed over.

An operation that is refused hands nothing over.  The state in its outcome is
the one that the operation had reached when it was refused.
-/

namespace TopicBroker

/-- Why an operation of the broker is refused. -/
inductive BrokerError where
  | topic (error : TopicError)
  | session (error : SessionError)
  /-- A client without an id of its own wants a session that outlives its connection. -/
  | clientIdRejected
  deriving DecidableEq, Repr

def BrokerError.message : BrokerError → String
  | topic error => error.message
  | session error => error.message
  | clientIdRejected => "empty client id requires clean_session = true"

/-- What the broker is told when it is set up. -/
structure BrokerSettings where
  /-- The strongest guarantee that is granted. -/
  maxQos : Qos
  /-- Whether messages are retained and replayed. -/
  retainAvailable : Bool
  /-- The most levels of a topic or filter; zero stands for no limit. -/
  maxTopicLevels : Nat
  /-- The most messages that wait for one client that is away. -/
  maxQueuedMessages : Nat
  /-- The room of an outlet that is made by the broker's settings. -/
  outletCapacity : Nat
  deriving DecidableEq, Repr

/-- Everything is allowed, one message waits for each client, and outlets have room for 1024. -/
instance : Inhabited BrokerSettings := ⟨⟨.exactlyOnce, true, 0, 1, 1024⟩⟩

/-- The state of the broker. -/
structure Broker where
  settings : BrokerSettings
  subscriptions : Subscriptions
  retained : Retained
  registry : Registry

/-- A message handed to a connection. -/
structure Delivery where
  connection : ConnectionId
  message : Publish
  deriving DecidableEq, Repr

/-- The answer of an operation, the state after it, and what it hands over. -/
structure Outcome (α : Type) where
  result : Except BrokerError α
  broker : Broker
  deliveries : List Delivery

namespace Outcome

variable {α β : Type}

/-- Go on with the next operation if the first one succeeds.  What both hand over is handed over
together, or not at all. -/
def andThen (outcome : Outcome α) (next : α → Broker → Outcome β) : Outcome β :=
  match outcome.result with
  | .error error => ⟨.error error, outcome.broker, []⟩
  | .ok answer =>
    let further := next answer outcome.broker
    match further.result with
    | .error error => ⟨.error error, further.broker, []⟩
    | .ok last => ⟨.ok last, further.broker, outcome.deliveries ++ further.deliveries⟩

end Outcome

namespace Broker

variable {α : Type}

/-- A broker without subscriptions, retained messages and sessions. -/
def start (settings : BrokerSettings) : Broker where
  settings := settings
  subscriptions := .empty settings.maxQos settings.maxTopicLevels
  retained := .empty settings.maxTopicLevels
  registry := .empty settings.maxQueuedMessages

instance : Inhabited Broker := ⟨start default⟩

/-- The operation succeeds in this state. -/
def accept (broker : Broker) (answer : α) (deliveries : List Delivery) : Outcome α :=
  ⟨.ok answer, broker, deliveries⟩

/-- The operation is refused in this state. -/
def refuse (broker : Broker) (error : BrokerError) : Outcome α :=
  ⟨.error error, broker, []⟩

/-- How many sessions are kept. -/
def sessionCount (broker : Broker) : Nat := broker.registry.size

/-- How many sessions are bound to a connection. -/
def activeSessionCount (broker : Broker) : Nat := broker.registry.activeCount

/-- How many subscriptions there are. -/
def subscriptionCount (broker : Broker) : Nat := broker.subscriptions.count

/-- How many topics retain a message. -/
def retainedCount (broker : Broker) : Nat := broker.retained.count

end Broker

end TopicBroker

import TopicBroker.Broker.Basic

/-!
# Subscribing and publishing

A published message goes to every matching subscription.  If the client is here
it is handed to the client's connection, and otherwise it waits for the client,
unless its guarantee is the weakest one.  A subscription made while the client
is here is answered with the retained messages that its filter selects.
-/

namespace TopicBroker.Broker

/-- The retained messages that a subscription selects, as deliveries to a connection. -/
def replay (broker : Broker) (filter : String) (granted : Qos) (connection : ConnectionId) :
    Except TopicError (List Delivery) :=
  if broker.settings.retainAvailable then do
    let selected ← broker.retained.select filter granted
    return selected.map fun (topic, message) =>
      ⟨connection, .first topic message.payload message.qos true⟩
  else .ok []

/-- Subscribe the client of a session to a filter, and give the guarantee that it is granted. -/
def subscribe (broker : Broker) (filter client : String) (qos : Qos) : Outcome Qos :=
  match broker.registry.get? client with
  | none => broker.refuse (.session (.unknownClient client))
  | some session =>
    match broker.subscriptions.subscribe filter session.client qos with
    | .error error => broker.refuse (.topic error)
    | .ok (subscriptions, granted) =>
      let subscribed := { broker with subscriptions }
      match session.connection? with
      | none => subscribed.accept granted []
      | some connection =>
        match subscribed.replay filter granted connection with
        | .error error => subscribed.refuse (.topic error)
        | .ok replayed => subscribed.accept granted replayed

/-- Remove a subscription, and tell whether there was one.  The client needs no session. -/
def unsubscribe (broker : Broker) (filter client : String) : Outcome Bool :=
  match broker.subscriptions.unsubscribe filter client with
  | .error error => broker.refuse (.topic error)
  | .ok (subscriptions, removed) => { broker with subscriptions }.accept removed []

/-- Remove all subscriptions of a client, and tell how many there were. -/
def unsubscribeAll (broker : Broker) (client : String) : Outcome Nat :=
  let (subscriptions, removed) := broker.subscriptions.unsubscribeAll client
  { broker with subscriptions }.accept removed []

/-- Bring a message to one client after the other, each at the weaker of the message's guarantee
and the one that the client was granted. -/
def route (topic : String) (payload : Payload) (qos : Qos) :
    List (String × Qos) → Registry → Registry × List Delivery
  | [], registry => (registry, [])
  | (client, granted) :: recipients, registry =>
    let message := Publish.first topic payload (min qos granted) false
    match registry.get? client with
    | none => route topic payload qos recipients registry
    | some session =>
      match session.connection? with
      | some connection =>
        let (registry, deliveries) := route topic payload qos recipients registry
        (registry, ⟨connection, message⟩ :: deliveries)
      | none =>
        let registry :=
          if message.qos.survivesAbsence then registry.put client (session.enqueue message).1
          else registry
        route topic payload qos recipients registry

/-- Publish a message to the matching subscriptions, and retain it on its topic if asked to. -/
def publish (broker : Broker) (topic : String) (payload : Payload) (qos : Qos) (retain : Bool) :
    Outcome Unit :=
  match broker.subscriptions.recipients topic with
  | .error error => broker.refuse (.topic error)
  | .ok recipients =>
    let (registry, deliveries) := route topic payload qos recipients broker.registry
    let routed := { broker with registry }
    if retain && broker.settings.retainAvailable then
      match routed.retained.retain topic payload qos with
      | .error error => routed.refuse (.topic error)
      | .ok retained => { routed with retained }.accept () deliveries
    else routed.accept () deliveries

/-- Retain a message on a topic without publishing it.  If nothing is retained, the topic name is
checked all the same. -/
def retain (broker : Broker) (topic : String) (payload : Payload) (qos : Qos) : Outcome Unit :=
  if broker.settings.retainAvailable then
    match broker.retained.retain topic payload qos with
    | .error error => broker.refuse (.topic error)
    | .ok retained => { broker with retained }.accept () []
  else
    match checkName broker.settings.maxTopicLevels topic with
    | .error error => broker.refuse (.topic error)
    | .ok () => broker.accept () []

end TopicBroker.Broker

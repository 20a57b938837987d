import TopicBroker.Broker.Routing
import TopicBroker.ClientId

/-!
# Clients that come and go

These are the operations on the session of one client.  The first four take one
step each: a session is created, resumed, suspended or removed, together with
the subscriptions that must not outlive it.  `Broker.connect` and
`Broker.release` put these steps together into what happens when a client
connects and when a connection ends.
-/

namespace TopicBroker

/-- What a client says when it connects. -/
structure ConnectRequest where
  /-- The id of the client; the empty id asks for a generated one. -/
  client : String
  /-- Whether the session begins anew and ends together with its connection. -/
  clean : Bool
  will : Option Will
  deriving DecidableEq, Repr

/-- What a client is told when its connection is accepted. -/
structure ConnectReply where
  client : String
  token : Token
  /-- Whether the client finds the session that was kept for it. -/
  sessionPresent : Bool
  deriving DecidableEq, Repr

/-- How a connection ended. -/
inductive Ending where
  /-- The client said goodbye. -/
  | disconnect
  | connectionLost
  deriving DecidableEq, Repr

namespace Broker

/-- Give a client a fresh session on a connection.  A session that is kept for the client is
discarded with its subscriptions. -/
def createSession (broker : Broker) (client : String) (connection : ConnectionId) :
    Outcome Token :=
  let subscriptions :=
    if broker.registry.hasPersisted client then (broker.subscriptions.unsubscribeAll client).1
    else broker.subscriptions
  let cleared := { broker with subscriptions }
  match cleared.registry.create client connection with
  | .error error => cleared.refuse (.session error)
  | .ok (registry, token) => { cleared with registry }.accept token []

/-- Bind the session that is kept for a client to a connection.  The client is handed the retained
messages of its subscriptions and then the messages that wait for it. -/
def resumeSession (broker : Broker) (client : String) (connection : ConnectionId) :
    Outcome Token :=
  match broker.registry.resume client connection with
  | .error error => broker.refuse (.session error)
  | .ok (registry, token, waiting) =>
    let resumed := { broker with registry }
    let replays := (resumed.subscriptions.filtersOf client).mapM fun (filter, granted) =>
      resumed.replay filter granted connection
    match replays with
    | .error error => resumed.refuse (.topic error)
    | .ok replayed => resumed.accept token (replayed.flatten ++ waiting.map (⟨connection, ·⟩))

/-- Release the connection of a client and keep its session. -/
def suspendSession (broker : Broker) (client : String) : Outcome Unit :=
  match broker.registry.suspend client with
  | .error error => broker.refuse (.session error)
  | .ok registry => { broker with registry }.accept () []

/-- Remove the session of a client together with its subscriptions. -/
def removeSession (broker : Broker) (client : String) : Outcome Unit :=
  match broker.registry.remove client with
  | .error error => broker.refuse (.session error)
  | .ok (registry, _) =>
    let subscriptions := (broker.subscriptions.unsubscribeAll client).1
    { broker with registry, subscriptions }.accept () []

/-- The id that a client is known by, if its request is allowed to leave it open. -/
def effectiveClient (request : ConnectRequest) (generated : String) : Except BrokerError String :=
  if request.client = "" then
    if request.clean then .ok generated else .error .clientIdRejected
  else .ok request.client

/-- Check the topic of a will, if there is one. -/
def checkWill (broker : Broker) (will : Option Will) : Except TopicError Unit :=
  match will with
  | none => .ok ()
  | some will => checkName broker.settings.maxTopicLevels will.topic

/-- Enter into the session of a client what its latest request says. -/
def enterRequest (broker : Broker) (client : String) (request : ConnectRequest) : Broker :=
  match broker.registry.get? client with
  | none => broker
  | some session =>
    let session := { session with clean := request.clean, will := request.will }
    { broker with registry := broker.registry.put client session }

/-- Connect a client.  A session that is kept for the client is resumed unless the request wants a
clean one, and otherwise the session begins anew.  The generated id serves a client that leaves
its id open. -/
def connect (broker : Broker) (request : ConnectRequest) (connection : ConnectionId)
    (generated : String) : Outcome ConnectReply :=
  match effectiveClient request generated with
  | .error error => broker.refuse error
  | .ok client =>
    match broker.checkWill request.will with
    | .error error => broker.refuse (.topic error)
    | .ok () =>
      match broker.registry.state? client with
      | some .active => broker.refuse (.session (.alreadyActive client))
      | state =>
        let present := state = some .persisted ∧ request.clean = false
        let bound :=
          if present then broker.resumeSession client connection
          else broker.createSession client connection
        bound.andThen fun token bound =>
          (bound.enterRequest client request).accept ⟨client, token, present⟩ []

/-- End the binding of a client to its connection.  A token that is not current changes nothing;
the answer tells whether it was.  The session is removed if it is clean and kept otherwise, and
the will is published if the connection was lost. -/
def release (broker : Broker) (client : String) (token : Token) (ending : Ending) :
    Outcome Bool :=
  if !broker.registry.isCurrent client token then broker.accept false []
  else
    match broker.registry.get? client with
    | none => broker.accept false []
    | some session =>
      let registry := broker.registry.put client { session with will := none }
      let willTaken := { broker with registry }
      let torn :=
        if session.clean then willTaken.removeSession client
        else willTaken.suspendSession client
      torn.andThen fun _ torn =>
        match ending, session.will with
        | .connectionLost, some will =>
          (torn.publish will.topic will.payload will.qos will.retain).andThen fun _ published =>
            published.accept true []
        | _, _ => torn.accept true []

end Broker

end TopicBroker

import TopicBroker.Broker.Operation
import TopicBroker.Outlet

/-!
# A broker with its connections

An exchange is a broker together with the outlets of its connections, numbered
in the order in which they were opened.  What an operation hands over is sent
into the outlets.  A message that its outlet refuses is dropped: it is not sent
again, and neither the broker nor any other outlet takes notice.
-/

namespace TopicBroker

/-- A broker and the outlets of its connections. -/
structure Exchange where
  broker : Broker
  /-- The outlet of the connection with number `n` stands at position `n`. -/
  outlets : List Outlet

namespace Exchange

/-- A fresh broker without connections. -/
def start (settings : BrokerSettings) : Exchange := ⟨.start settings, []⟩

/-- Open a connection that ends in the given outlet. -/
def openConnection (exchange : Exchange) (outlet : Outlet) : Exchange × ConnectionId :=
  ({ exchange with outlets := exchange.outlets ++ [outlet] }, ⟨exchange.outlets.length⟩)

/-- An outlet of the size that the broker's settings ask for. -/
def configuredOutlet (exchange : Exchange) : Outlet :=
  .channel exchange.broker.settings.outletCapacity

/-- The outlet of a connection. -/
def outlet? (exchange : Exchange) (connection : ConnectionId) : Option Outlet :=
  exchange.outlets[connection.number]?

/-- Change the outlet of a connection. -/
def modifyOutlet (exchange : Exchange) (connection : ConnectionId) (change : Outlet → Outlet) :
    Exchange :=
  { exchange with outlets := exchange.outlets.modify connection.number change }

/-- Send a message into the outlet of its connection, or drop it if the outlet refuses it. -/
def deliver (exchange : Exchange) (delivery : Delivery) : Exchange :=
  exchange.modifyOutlet delivery.connection fun outlet =>
    match outlet.send delivery.message with
    | .ok changed => changed
    | .error _ => outlet

/-- Let the broker do what is asked and send what it hands over. -/
def perform (exchange : Exchange) (operation : Operation) :
    Exchange × Except BrokerError Reply :=
  let outcome := exchange.broker.perform operation
  (outcome.deliveries.foldl deliver { exchange with broker := outcome.broker }, outcome.result)

/-- Take out the oldest message that waits at a connection. -/
def receive (exchange : Exchange) (connection : ConnectionId) : Exchange × Option Publish :=
  (exchange.modifyOutlet connection fun outlet => outlet.receive.1,
    (exchange.outlet? connection).bind fun outlet => outlet.receive.2)

/-- Take out all messages that wait at a connection. -/
def drain (exchange : Exchange) (connection : ConnectionId) : Exchange × List Publish :=
  (exchange.modifyOutlet connection fun outlet => outlet.drain.1,
    ((exchange.outlet? connection).map Outlet.waiting).getD [])

/-- Close the receiving end of a connection. -/
def close (exchange : Exchange) (connection : ConnectionId) : Exchange :=
  exchange.modifyOutlet connection Outlet.close

end Exchange

end TopicBroker

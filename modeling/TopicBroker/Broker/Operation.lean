import TopicBroker.Broker.Sessions

/-!
# Operations as data

Everything that can be asked of the broker is an `Operation`, so that histories
of the broker are lists of operations.  A broker is reachable if some history
leads to it from a fresh broker.
-/

namespace TopicBroker

/-- Something that can be asked of the broker. -/
inductive Operation where
  | subscribe (filter client : String) (qos : Qos)
  | unsubscribe (filter client : String)
  | unsubscribeAll (client : String)
  | publish (topic : String) (payload : Payload) (qos : Qos) (retain : Bool)
  | retain (topic : String) (payload : Payload) (qos : Qos)
  | createSession (client : String) (connection : ConnectionId)
  | resumeSession (client : String) (connection : ConnectionId)
  | suspendSession (client : String)
  | removeSession (client : String)
  | connect (request : ConnectRequest) (connection : ConnectionId) (generated : String)
  | release (client : String) (token : Token) (ending : Ending)
  deriving DecidableEq, Repr

/-- What the broker answers to an operation that it does not refuse. -/
inductive Reply where
  | done
  | granted (qos : Qos)
  | flag (value : Bool)
  | removed (count : Nat)
  | bound (token : Token)
  | connected (reply : ConnectReply)
  deriving DecidableEq, Repr

/-- Change the answer of an operation that is not refused. -/
def Outcome.map {α β : Type} (change : α → β) (outcome : Outcome α) : Outcome β where
  result := outcome.result.map change
  broker := outcome.broker
  deliveries := outcome.deliveries

namespace Broker

/-- Do what is asked. -/
def perform (broker : Broker) : Operation → Outcome Reply
  | .subscribe filter client qos => (broker.subscribe filter client qos).map .granted
  | .unsubscribe filter client => (broker.unsubscribe filter client).map .flag
  | .unsubscribeAll client => (broker.unsubscribeAll client).map .removed
  | .publish topic payload qos retain =>
    (broker.publish topic payload qos retain).map fun _ => .done
  | .retain topic payload qos => (broker.retain topic payload qos).map fun _ => .done
  | .createSession client connection => (broker.createSession client connection).map .bound
  | .resumeSession client connection => (broker.resumeSession client connection).map .bound
  | .suspendSession client => (broker.suspendSession client).map fun _ => .done
  | .removeSession client => (broker.removeSession client).map fun _ => .done
  | .connect request connection generated =>
    (broker.connect request connection generated).map .connected
  | .release client token ending => (broker.release client token ending).map .flag

/-- The state after a history of operations. -/
def run (broker : Broker) (history : List Operation) : Broker :=
  history.foldl (fun broker operation => (broker.perform operation).broker) broker

/-- The outcomes of a history of operations, in order. -/
def outcomes (broker : Broker) : List Operation → List (Outcome Reply)
  | [] => []
  | operation :: history =>
    let outcome := broker.perform operation
    outcome :: outcome.broker.outcomes history

/-- Some history leads from a fresh broker to this state. -/
def Reachable (broker : Broker) : Prop :=
  ∃ settings history, broker = (start settings).run history

end Broker

end TopicBroker

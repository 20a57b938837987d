import TopicBroker.Qos

/-!
# Messages

What the broker stores and hands over: published messages, the last message
that a topic retains, and the will that a client leaves with its connection.
Payloads are bytes that the broker never looks into; the only fact about a
payload that changes what happens is whether it is empty.
-/

namespace TopicBroker

/-- The uninterpreted bytes that a message carries. -/
abbrev Payload := List UInt8

/-- A message on its way to one connection. -/
structure Publish where
  /-- The topic name that the message was published on. -/
  topic : String
  payload : Payload
  qos : Qos
  /-- Set exactly on messages that are replayed from the retained ones. -/
  retain : Bool
  /-- Set on a repeated transmission; the broker itself never repeats one. -/
  duplicate : Bool
  deriving DecidableEq, Repr

/-- The first transmission of a message. -/
def Publish.first (topic : String) (payload : Payload) (qos : Qos) (retain : Bool) : Publish :=
  ⟨topic, payload, qos, retain, false⟩

/-- The message that a client asks the broker to publish if its connection is lost. -/
structure Will where
  topic : String
  payload : Payload
  qos : Qos
  /-- Whether the message is also retained on its topic. -/
  retain : Bool
  deriving DecidableEq, Repr

/-- The last message retained on a topic, without the topic itself. -/
structure RetainedMessage where
  payload : Payload
  qos : Qos
  deriving DecidableEq, Repr

end TopicBroker

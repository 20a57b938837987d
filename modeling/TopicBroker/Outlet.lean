import TopicBroker.Message

/-!
# Outlets

An outlet is the broker's end of a connection: messages that are sent into it
wait there until the client receives them.  A recorder takes every message; a
channel has room for a fixed number of waiting messages, at least one.  Once
the receiving end is closed, nothing waits any more and every message is
refused.
-/

namespace TopicBroker

/-- The messages that wait at the end of a connection, oldest first. -/
structure Outlet where
  /-- The most messages that can wait; `none` stands for no limit. -/
  capacity : Option Nat
  waiting : List Publish
  closed : Bool
  deriving DecidableEq, Repr

/-- Why an outlet refuses a message. -/
inductive OutletError where
  | closed
  | full
  deriving DecidableEq, Repr

def OutletError.message : OutletError → String
  | closed => "connection closed"
  | full => "outbound buffer full"

namespace Outlet

/-- An outlet that never refuses a message. -/
def recorder : Outlet := ⟨none, [], false⟩

/-- An outlet with room for the given number of messages, and at least for one. -/
def channel (capacity : Nat) : Outlet := ⟨some (max capacity 1), [], false⟩

/-- Whether as many messages wait as can wait. -/
def isFull (outlet : Outlet) : Bool :=
  match outlet.capacity with
  | none => false
  | some capacity => decide (capacity ≤ outlet.waiting.length)

/-- Let a message wait for the client. -/
def send (outlet : Outlet) (message : Publish) : Except OutletError Outlet :=
  if outlet.closed then .error .closed
  else if outlet.isFull then .error .full
  else .ok { outlet with waiting := outlet.waiting ++ [message] }

/-- Take out the oldest message, if one waits. -/
def receive (outlet : Outlet) : Outlet × Option Publish :=
  ({ outlet with waiting := outlet.waiting.drop 1 }, outlet.waiting.head?)

/-- Take out all messages. -/
def drain (outlet : Outlet) : Outlet × List Publish :=
  ({ outlet with waiting := [] }, outlet.waiting)

/-- Close the receiving end; the messages that wait are lost. -/
def close (outlet : Outlet) : Outlet :=
  { outlet with waiting := [], closed := true }

end Outlet

end TopicBroker

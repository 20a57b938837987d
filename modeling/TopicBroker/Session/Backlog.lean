import TopicBroker.Message

/-!
# The backlog of a session

A backlog keeps the latest messages for a client that is away.  It has room for
a fixed number of messages; when it is full, the oldest message makes room for
the new one, and a backlog without any room refuses every message.
-/

namespace TopicBroker

/-- The messages waiting for a client, oldest first. -/
structure Backlog where
  /-- The most messages that can wait. -/
  capacity : Nat
  messages : List Publish
  deriving DecidableEq, Repr

namespace Backlog

/-- A backlog in which nothing waits. -/
def empty (capacity : Nat) : Backlog := ⟨capacity, []⟩

/-- Let a message wait, and tell whether there is room for messages at all. -/
def push (backlog : Backlog) (message : Publish) : Backlog × Bool :=
  if backlog.capacity = 0 then (backlog, false)
  else
    let kept :=
      if backlog.capacity ≤ backlog.messages.length then backlog.messages.drop 1
      else backlog.messages
    ({ backlog with messages := kept ++ [message] }, true)

/-- Take all messages out. -/
def drain (backlog : Backlog) : Backlog × List Publish :=
  ({ backlog with messages := [] }, backlog.messages)

/-- How many messages wait. -/
def size (backlog : Backlog) : Nat := backlog.messages.length

end Backlog

end TopicBroker

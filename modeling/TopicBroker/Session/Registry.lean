import Std.Data.ExtTreeMap
import TopicBroker.Session.Basic

/-!
# The registry of sessions

The registry holds at most one session per client and numbers the bindings of
sessions to connections.  Every binding that succeeds takes the next number, a
binding that is refused takes none, so no two bindings share a token and a
token that has been given up never becomes current again.
-/

namespace TopicBroker

/-- Why a change to a session is refused. -/
inductive SessionError where
  /-- The client is bound to a connection already. -/
  | alreadyActive (client : String)
  /-- The client has no session. -/
  | unknownClient (client : String)
  deriving DecidableEq, Repr

def SessionError.message : SessionError → String
  | alreadyActive client => "client id '" ++ client ++ "' already has an active session"
  | unknownClient client => "no session for client id '" ++ client ++ "'"

/-- The sessions of all clients. -/
structure Registry where
  sessions : Std.ExtTreeMap String Session
  /-- The token of the next binding. -/
  nextToken : Token
  /-- The most messages that can wait for one client. -/
  capacity : Nat

namespace Registry

/-- No sessions; tokens start at one. -/
def empty (capacity : Nat) : Registry := ⟨∅, ⟨1⟩, capacity⟩

/-- Without a capacity of its own, a registry keeps one message for each client. -/
instance : Inhabited Registry := ⟨empty 1⟩

def get? (registry : Registry) (client : String) : Option Session :=
  registry.sessions[client]?

/-- Replace the session of a client. -/
def put (registry : Registry) (client : String) (session : Session) : Registry :=
  { registry with sessions := registry.sessions.insert client session }

def state? (registry : Registry) (client : String) : Option SessionState :=
  (registry.get? client).map Session.state

def hasActive (registry : Registry) (client : String) : Bool :=
  registry.state? client = some .active

def hasPersisted (registry : Registry) (client : String) : Bool :=
  registry.state? client = some .persisted

/-- The connection that a client is bound to. -/
def connection? (registry : Registry) (client : String) : Option ConnectionId :=
  (registry.get? client).bind Session.connection?

/-- Whether a client is bound to a connection under exactly this token. -/
def isCurrent (registry : Registry) (client : String) (token : Token) : Bool :=
  (registry.get? client).bind Session.token? = some token

/-- The token that the next binding gets, and the registry after this binding. -/
def takeToken (registry : Registry) : Registry × Token :=
  ({ registry with nextToken := ⟨registry.nextToken.number + 1⟩ }, registry.nextToken)

/-- Give a client a fresh session on a connection, in place of any session that is kept for it. -/
def create (registry : Registry) (client : String) (connection : ConnectionId) :
    Except SessionError (Registry × Token) :=
  if registry.hasActive client then .error (.alreadyActive client)
  else
    let (registry, token) := registry.takeToken
    let session := Session.fresh client ⟨token, connection⟩ registry.capacity
    .ok (registry.put client session, token)

/-- Bind the session that is kept for a client to a connection, and take out the messages that wait
for the client. -/
def resume (registry : Registry) (client : String) (connection : ConnectionId) :
    Except SessionError (Registry × Token × List Publish) :=
  match registry.get? client with
  | none => .error (.unknownClient client)
  | some session =>
    if session.isActive then .error (.alreadyActive session.client)
    else
      let (registry, token) := registry.takeToken
      let (session, waiting) := { session with link := some ⟨token, connection⟩ }.drain
      .ok (registry.put client session, token, waiting)

/-- Release the connection of a client and keep the session.  A session that is kept already stays
as it is. -/
def suspend (registry : Registry) (client : String) : Except SessionError Registry :=
  match registry.get? client with
  | none => .error (.unknownClient client)
  | some session => .ok (registry.put client { session with link := none })

/-- Remove the session of a client, bound or not, and give it back. -/
def remove (registry : Registry) (client : String) : Except SessionError (Registry × Session) :=
  match registry.get? client with
  | none => .error (.unknownClient client)
  | some session => .ok ({ registry with sessions := registry.sessions.erase client }, session)

/-- How many sessions there are. -/
def size (registry : Registry) : Nat := registry.sessions.size

def isEmpty (registry : Registry) : Bool := registry.sessions.isEmpty

/-- How many sessions are bound to a connection. -/
def activeCount (registry : Registry) : Nat :=
  registry.sessions.values.countP Session.isActive

end Registry

end TopicBroker

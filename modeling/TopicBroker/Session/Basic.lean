import TopicBroker.Session.Backlog
import TopicBroker.Text.Quoted

/-!
# Sessions

A session is what the broker knows of one client: whether the client is here,
what it leaves behind when its connection is lost, and which messages wait for
it.  While the client is here the session is bound to a connection, and the
token of the binding tells this binding from every earlier and later one.
-/

namespace TopicBroker

/-- The number of one binding of a session to a connection. -/
structure Token where
  number : Nat
  deriving DecidableEq, Repr

/-- The name of a connection that messages can be handed to. -/
structure ConnectionId where
  number : Nat
  deriving DecidableEq, Repr

/-- The binding of a session to a connection. -/
structure Link where
  token : Token
  connection : ConnectionId
  deriving DecidableEq, Repr

/-- Whether the client of a session is here. -/
inductive SessionState where
  /-- The session is bound to a connection. -/
  | active
  /-- The session is kept for a client that is away. -/
  | persisted
  deriving DecidableEq, Repr

/-- What the broker knows of one client. -/
structure Session where
  client : String
  /-- Whether the session ends together with its connection. -/
  clean : Bool
  /-- The message that is published if the connection is lost. -/
  will : Option Will
  link : Option Link
  backlog : Backlog
  deriving DecidableEq, Repr

/-- A token as it is shown to people. -/
def Token.render (token : Token) : String := "#" ++ toString token.number

namespace Session

/-- The session of a client that has just come, with room for so many waiting messages. -/
def fresh (client : String) (link : Link) (capacity : Nat) : Session :=
  ⟨client, true, none, some link, .empty capacity⟩

def state (session : Session) : SessionState :=
  if session.link.isSome then .active else .persisted

def isActive (session : Session) : Bool := session.link.isSome

def token? (session : Session) : Option Token := session.link.map Link.token

def connection? (session : Session) : Option ConnectionId := session.link.map Link.connection

/-- Let a message wait for the client, and tell whether there is room for messages at all. -/
def enqueue (session : Session) (message : Publish) : Session × Bool :=
  let (backlog, kept) := session.backlog.push message
  ({ session with backlog }, kept)

/-- Take out all messages that wait for the client. -/
def drain (session : Session) : Session × List Publish :=
  let (backlog, messages) := session.backlog.drain
  ({ session with backlog }, messages)

/-- A one-line description for diagnostics.  It names the will nowhere and the waiting messages by
their number only. -/
def describe (session : Session) : String :=
  let state := match session.state with
    | .active => "Active"
    | .persisted => "Persisted"
  let token := match session.token? with
    | none => "None"
    | some token => "Some(SessionToken(" ++ toString token.number ++ "))"
  let fields := [
    "client_id: " ++ Text.quoted session.client,
    "state: " ++ state,
    "token: " ++ token,
    "clean_session: " ++ toString session.clean,
    "pending: " ++ toString session.backlog.size]
  "Session \x7b " ++ ", ".intercalate fields ++ " \x7d"

end Session

end TopicBroker

import TopicBroker.Proofs.Session.Registry

/-!
# The queues of a registry

A registry keeps a queue for each client that has a session.  A session begins
with an empty queue, and the queue is taken out as a whole when it is drained
and when the session is bound to a connection again.  What has been queued
since then stays in order, and of it the last messages are kept, as many as
there is room for.

`queuedSince` reads off a record of what was asked and answered what has been
queued since then, without looking into the registry.  By `waits_in_order` this
record determines everything that a queue gives.
-/

namespace TopicBroker.Registry

/-- Something that is asked of a registry, or of one of the sessions in it. -/
inductive Request where
  | create (client : String) (connection : ConnectionId)
  | resume (client : String) (connection : ConnectionId)
  | suspend (client : String)
  | remove (client : String)
  /-- Write down what a client has asked for with its connection. -/
  | enter (client : String) (clean : Bool) (will : Option Will)
  | enqueue (client : String) (message : Publish)
  | drain (client : String)
  deriving DecidableEq, Repr

inductive Answer where
  | refused (error : SessionError)
  /-- There is no session to ask. -/
  | missing
  | created (token : Token)
  | resumed (token : Token) (messages : List Publish)
  | suspended
  | removed (session : Session)
  | entered
  | queued (kept : Bool)
  | drained (messages : List Publish)
  deriving DecidableEq, Repr

def Request.client : Request → String
  | create client _ | resume client _ | suspend client | remove client | enter client _ _ |
    enqueue client _ | drain client => client

/-- Change the session of a client, if there is one. -/
def onSession (registry : Registry) (client : String) (change : Session → Session × Answer) :
    Registry × Answer :=
  match registry.get? client with
  | none => (registry, .missing)
  | some session => (registry.put client (change session).1, (change session).2)

/-- The registry after a request, and the answer. -/
def answer (registry : Registry) : Request → Registry × Answer
  | .create client connection =>
    match registry.create client connection with
    | .error error => (registry, .refused error)
    | .ok (after, token) => (after, .created token)
  | .resume client connection =>
    match registry.resume client connection with
    | .error error => (registry, .refused error)
    | .ok (after, token, messages) => (after, .resumed token messages)
  | .suspend client =>
    match registry.suspend client with
    | .error error => (registry, .refused error)
    | .ok after => (after, .suspended)
  | .remove client =>
    match registry.remove client with
    | .error error => (registry, .refused error)
    | .ok (after, session) => (after, .removed session)
  | .enter client clean will =>
    registry.onSession client fun session => ({ session with clean, will }, .entered)
  | .enqueue client message =>
    registry.onSession client fun session =>
      ((session.enqueue message).1, .queued (session.enqueue message).2)
  | .drain client =>
    registry.onSession client fun session => (session.drain.1, .drained session.drain.2)

/-- The registry after some requests. -/
def after (registry : Registry) (history : List Request) : Registry :=
  history.foldl (fun registry request => (registry.answer request).1) registry

/-- A request together with its answer. -/
abbrev Event := Request × Answer

/-- What was asked and answered in a history. -/
def record (registry : Registry) : List Request → List Event
  | [] => []
  | request :: history =>
    (request, (registry.answer request).2) :: (registry.answer request).1.record history

/-- The event leaves the client with an empty queue: its session was created, drained or bound to a
connection again. -/
def Event.restarts (client : String) : Event → Bool
  | (.create other _, .created _) => other = client
  | (.resume other _, .resumed _ _) => other = client
  | (.drain other, .drained _) => other = client
  | _ => false

/-- The message that the event queues for the client. -/
def Event.queued? (client : String) : Event → Option Publish
  | (.enqueue other message, .queued _) => if other = client then some message else none
  | _ => none

/-- The messages that were queued for a client since its queue was empty the last time for one of
the reasons above. -/
def queuedSince (client : String) (events : List Event) : List Publish :=
  (events.rtakeWhile fun event => !Event.restarts client event).filterMap (Event.queued? client)

/-- In each queue the last of these messages wait, as many as there is room for. -/
def Queues (registry : Registry) (queued : String → List Publish) : Prop :=
  ∀ client session, registry.get? client = some session →
    session.backlog = ⟨registry.capacity, (queued client).rtake registry.capacity⟩

variable {registry : Registry} {client : String} {session : Session}
  {queued : String → List Publish}

section Step

/-- What a request does, and its answer. -/
inductive Answers (registry : Registry) : Request → Registry × Answer → Prop
  | refused (request : Request) (error : SessionError) :
      registry.Answers request (registry, .refused error)
  | missing (request : Request) : registry.Answers request (registry, .missing)
  | create {client : String} (connection : ConnectionId)
      (free : registry.hasActive client = false) :
      registry.Answers (.create client connection)
        (registry.counted.put client
          (Session.fresh client ⟨registry.nextToken, connection⟩ registry.capacity),
            .created registry.nextToken)
  | resume {client : String} {session : Session} (connection : ConnectionId)
      (found : registry.get? client = some session) (away : session.link = none) :
      registry.Answers (.resume client connection)
        (registry.counted.put client (session.boundTo ⟨registry.nextToken, connection⟩),
          .resumed registry.nextToken session.backlog.messages)
  | suspend {client : String} {session : Session} (found : registry.get? client = some session) :
      registry.Answers (.suspend client)
        (registry.put client { session with link := none }, .suspended)
  | remove {client : String} {session : Session} (found : registry.get? client = some session) :
      registry.Answers (.remove client) (registry.erase client, .removed session)
  | enter {client : String} {session : Session} (clean : Bool) (will : Option Will)
      (found : registry.get? client = some session) :
      registry.Answers (.enter client clean will)
        (registry.put client { session with clean, will }, .entered)
  | enqueue {client : String} {session : Session} (message : Publish)
      (found : registry.get? client = some session) :
      registry.Answers (.enqueue client message)
        (registry.put client (session.enqueue message).1, .queued (session.enqueue message).2)
  | drain {client : String} {session : Session} (found : registry.get? client = some session) :
      registry.Answers (.drain client)
        (registry.put client session.drain.1, .drained session.drain.2)

theorem answer_create (connection : ConnectionId) (free : registry.hasActive client = false) :
    registry.answer (.create client connection) =
      (registry.counted.put client
        (Session.fresh client ⟨registry.nextToken, connection⟩ registry.capacity),
          .created registry.nextToken) := by
  rw [answer, create_eq, free]
  rfl

theorem answer_resume (connection : ConnectionId) (found : registry.get? client = some session)
    (away : session.link = none) :
    registry.answer (.resume client connection) =
      (registry.counted.put client (session.boundTo ⟨registry.nextToken, connection⟩),
        .resumed registry.nextToken session.backlog.messages) := by
  rw [answer, resume_of_away connection found away]

theorem answer_remove (found : registry.get? client = some session) :
    registry.answer (.remove client) = (registry.erase client, .removed session) := by
  rw [answer, remove_eq, found]

theorem answers_onSession {request : Request} (change : Session → Session × Answer)
    (answers : ∀ session, registry.get? client = some session →
      registry.Answers request (registry.put client (change session).1, (change session).2)) :
    registry.Answers request (registry.onSession client change) := by
  unfold onSession
  cases found : registry.get? client with
  | none => exact .missing request
  | some session => exact answers session found

theorem answers_answer (registry : Registry) (request : Request) :
    registry.Answers request (registry.answer request) := by
  cases request with
  | create client connection =>
      cases free : registry.hasActive client with
      | false => exact answer_create connection free ▸ .create connection free
      | true =>
          rw [answer, create_eq, free]
          exact .refused _ _
  | resume client connection =>
      cases found : registry.get? client with
      | none =>
          rw [answer, resume, found]
          exact .refused _ _
      | some session =>
          cases away : session.link with
          | none => exact answer_resume connection found away ▸ .resume connection found away
          | some link =>
              have here : session.isActive = true := by simp [Session.isActive, away]
              rw [answer, resume_of_here connection found here]
              exact .refused _ _
  | suspend client =>
      rw [answer, Registry.suspend]
      cases found : registry.get? client with
      | none => exact .refused _ _
      | some session => exact .suspend found
  | remove client =>
      cases found : registry.get? client with
      | none =>
          rw [answer, remove_eq, found]
          exact .refused _ _
      | some session => exact answer_remove found ▸ .remove found
  | enter client clean will => exact answers_onSession _ fun _ found => .enter clean will found
  | enqueue client message => exact answers_onSession _ fun _ found => .enqueue message found
  | drain client => exact answers_onSession _ fun _ found => .drain found

/-- What has been queued for each client once one more event has been recorded. -/
def queuedAfter (queued : String → List Publish) (event : Event) (client : String) :
    List Publish :=
  if Event.restarts client event then []
  else queued client ++ (Event.queued? client event).toList

theorem queuedAfter_of_ne (request : Request) (given : Answer)
    (different : client ≠ request.client) :
    queuedAfter queued (request, given) client = queued client := by
  cases request <;> cases given <;>
    simp_all [queuedAfter, Event.restarts, Event.queued?, Request.client, Ne.symm]

theorem queuedAfter_refused (request : Request) (error : SessionError) :
    queuedAfter queued (request, .refused error) = queued := by
  funext client
  cases request <;> simp [queuedAfter, Event.restarts, Event.queued?]

theorem queuedAfter_missing (request : Request) :
    queuedAfter queued (request, .missing) = queued := by
  funext client
  cases request <;> simp [queuedAfter, Event.restarts, Event.queued?]

theorem Queues.put (queues : registry.Queues queued) (request : Request) {given : Answer}
    (backlog : session.backlog = ⟨registry.capacity,
      (queuedAfter queued (request, given) request.client).rtake registry.capacity⟩) :
    (registry.put request.client session).Queues (queuedAfter queued (request, given)) := by
  intro other found held
  rw [get?_put] at held
  split at held
  case isTrue same =>
    cases held
    rw [same]
    exact backlog
  case isFalse different =>
    rw [queuedAfter_of_ne request given different]
    exact queues other found held

theorem Queues.erase (queues : registry.Queues queued) (request : Request) (given : Answer) :
    (registry.erase request.client).Queues (queuedAfter queued (request, given)) := by
  intro other found held
  rw [get?_erase] at held
  split at held
  case isTrue => cases held
  case isFalse different =>
    rw [queuedAfter_of_ne request given different]
    exact queues other found held

theorem Queues.fits (queues : registry.Queues queued)
    (found : registry.get? client = some session) : session.backlog.Fits := by
  rw [queues client session found]
  exact length_rtake_le _ _

theorem Answers.capacity {request : Request} {done : Registry × Answer}
    (answers : registry.Answers request done) : done.1.capacity = registry.capacity := by
  cases answers <;> rfl

theorem Answers.queues {request : Request} {done : Registry × Answer}
    (answers : registry.Answers request done) (queues : registry.Queues queued) :
    done.1.Queues (queuedAfter queued (request, done.2)) := by
  cases answers with
  | refused request error => exact (queuedAfter_refused request error).symm ▸ queues
  | missing request => exact (queuedAfter_missing request).symm ▸ queues
  | @create client connection free =>
      have queues : registry.counted.Queues queued := queues
      apply queues.put (.create client connection)
      simp [queuedAfter, Event.restarts, Request.client, Session.fresh, Backlog.empty, counted]
  | @resume client session connection found away =>
      have counted : registry.counted.Queues queued := queues
      apply counted.put (.resume client connection)
      simp [queuedAfter, Event.restarts, Request.client, Session.boundTo, Registry.counted,
        queues client session found]
  | @suspend client session found =>
      apply queues.put (.suspend client)
      simp [queuedAfter, Event.restarts, Event.queued?, Request.client,
        queues client session found]
  | @remove client session found => exact queues.erase (.remove client) _
  | @enter client session clean will found =>
      apply queues.put (.enter client clean will)
      simp [queuedAfter, Event.restarts, Event.queued?, Request.client,
        queues client session found]
  | @enqueue client session message found =>
      have pushed := Backlog.push_fst (queues.fits found) message
      rw [queues client session found] at pushed
      simp only [rtake_append_rtake] at pushed
      apply queues.put (.enqueue client message)
      simp [queuedAfter, Event.restarts, Event.queued?, Request.client, Session.enqueue,
        queues client session found, pushed]
  | @drain client session found =>
      apply queues.put (.drain client)
      simp [queuedAfter, Event.restarts, Request.client, Session.drain, Backlog.drain,
        queues client session found]

end Step

section Run

theorem queuedSince_append_singleton (events : List Event) (event : Event) :
    queuedSince client (events ++ [event]) =
      queuedAfter (fun client => queuedSince client events) event client := by
  unfold queuedSince queuedAfter
  rw [List.rtakeWhile_concat]
  cases Event.restarts client event with
  | true => rfl
  | false => cases queued : Event.queued? client event <;> simp [queued]

theorem after_append_singleton (registry : Registry) (history : List Request)
    (request : Request) :
    registry.after (history ++ [request]) = ((registry.after history).answer request).1 := by
  rw [after, List.foldl_append]
  rfl

theorem record_append_singleton (registry : Registry) (history : List Request)
    (request : Request) :
    registry.record (history ++ [request]) =
      registry.record history ++ [(request, ((registry.after history).answer request).2)] := by
  induction history generalizing registry with
  | nil => rfl
  | cons first history ih => exact congrArg (List.cons _) (ih (registry.answer first).1)

theorem capacity_after (registry : Registry) (history : List Request) :
    (registry.after history).capacity = registry.capacity := by
  induction history generalizing registry with
  | nil => rfl
  | cons request history ih => exact (ih _).trans (answers_answer registry request).capacity

theorem queues_after (capacity : Nat) (history : List Request) :
    ((empty capacity).after history).Queues
      fun client => queuedSince client ((empty capacity).record history) := by
  induction history using List.reverseRecOn with
  | nil =>
      intro client session found
      cases (get?_empty client capacity).symm.trans found
  | append_singleton history request ih =>
      rw [after_append_singleton, record_append_singleton]
      simp only [queuedSince_append_singleton]
      exact (answers_answer _ request).queues ih

/-- What a registry does with the queue of a client for which the given messages were queued. -/
structure WaitsInOrder (registry : Registry) (capacity : Nat) (client : String)
    (queued : List Publish) : Prop where
  newest : queued.rtake capacity <:+ queued
  number : (queued.rtake capacity).length = min capacity queued.length
  resumed : ∀ connection messages,
    (∃ token, (registry.answer (.resume client connection)).2 = .resumed token messages) ↔
      registry.hasPersisted client = true ∧ messages = queued.rtake capacity
  drained : ∀ messages, (registry.answer (.drain client)).2 = .drained messages ↔
    (registry.get? client).isSome = true ∧ messages = queued.rtake capacity
  removed : ∀ messages,
    (∃ session, (registry.answer (.remove client)).2 = .removed session ∧
        session.backlog.messages = messages) ↔
      (registry.get? client).isSome = true ∧ messages = queued.rtake capacity
  kept : ∀ message kept, (registry.answer (.enqueue client message)).2 = .queued kept ↔
    (registry.get? client).isSome = true ∧ (kept = false ↔ capacity = 0)
  fits : ∀ session, registry.get? client = some session → session.backlog.size ≤ capacity
  /-- A session begins with an empty queue, also in place of one that was kept. -/
  created : ∀ connection, registry.get? client = none ∨ registry.hasPersisted client = true →
    ∃ token session, (registry.answer (.create client connection)).2 = .created token ∧
      (registry.answer (.create client connection)).1.get? client = some session ∧
      session.backlog.messages = []
  suspended : ∀ other,
    (registry.answer (.suspend other)).1.waiting client = registry.waiting client
  refused : ∀ request error, (registry.answer request).2 = .refused error →
    (registry.answer request).1 = registry

section Gives

variable {messages : List Publish} (connection : ConnectionId)

theorem resumed_iff :
    (∃ token, (registry.answer (.resume client connection)).2 = .resumed token messages) ↔
      ∃ session, registry.get? client = some session ∧ session.link = none ∧
        messages = session.backlog.messages := by
  constructor
  · rintro ⟨token, given⟩
    have answers := answers_answer registry (.resume client connection)
    generalize registry.answer (.resume client connection) = done at answers given
    cases answers with
    | refused | missing => cases given
    | resume _ found away =>
        cases given
        exact ⟨_, found, away, rfl⟩
  · rintro ⟨session, found, away, rfl⟩
    rw [answer_resume connection found away]
    exact ⟨_, rfl⟩

theorem drained_iff :
    (registry.answer (.drain client)).2 = .drained messages ↔
      ∃ session, registry.get? client = some session ∧ messages = session.backlog.messages := by
  rw [answer, onSession]
  cases registry.get? client with
  | none => simp
  | some session => simp [Session.drain, Backlog.drain, eq_comm]

theorem removed_iff :
    (∃ session, (registry.answer (.remove client)).2 = .removed session ∧
        session.backlog.messages = messages) ↔
      ∃ session, registry.get? client = some session ∧ messages = session.backlog.messages := by
  rw [answer, remove_eq]
  cases registry.get? client with
  | none => simp
  | some session => simp [eq_comm]

theorem queued_iff {message : Publish} {kept : Bool} :
    (registry.answer (.enqueue client message)).2 = .queued kept ↔
      ∃ session, registry.get? client = some session ∧
        (kept = false ↔ session.backlog.capacity = 0) := by
  rw [answer, onSession]
  cases registry.get? client with
  | none => simp
  | some session =>
      by_cases noRoom : session.backlog.capacity = 0 <;>
        simp [Session.enqueue, Backlog.push, noRoom, eq_comm]

theorem waiting_put (registry : Registry) (client : String) (session : Session) (other : String) :
    (registry.put client session).waiting other =
      if other = client then session.backlog.messages else registry.waiting other := by
  unfold waiting
  rw [get?_put]
  split <;> rfl

theorem waiting_suspend (registry : Registry) (client other : String) :
    (registry.answer (.suspend other)).1.waiting client = registry.waiting client := by
  have answers := answers_answer registry (.suspend other)
  generalize registry.answer (.suspend other) = done at answers
  cases answers with
  | refused | missing => rfl
  | suspend found =>
      rw [waiting_put]
      split
      case isTrue same => simp [waiting, same, found]
      case isFalse => rfl

theorem eq_of_refused {request : Request} {error : SessionError}
    (refused : (registry.answer request).2 = .refused error) :
    (registry.answer request).1 = registry := by
  have answers := answers_answer registry request
  generalize registry.answer request = done at answers refused
  cases answers with
  | refused => rfl
  | _ => cases refused

end Gives

theorem Queues.gives_iff (queues : registry.Queues queued) {messages : List Publish} :
    (∃ session, registry.get? client = some session ∧ messages = session.backlog.messages) ↔
      (registry.get? client).isSome = true ∧
        messages = (queued client).rtake registry.capacity := by
  rw [Option.isSome_iff_exists]
  constructor
  · rintro ⟨session, found, rfl⟩
    exact ⟨⟨session, found⟩, by rw [queues client session found]⟩
  · rintro ⟨⟨session, found⟩, rfl⟩
    exact ⟨session, found, by rw [queues client session found]⟩

theorem Queues.waitsInOrder (queues : registry.Queues queued) (client : String) :
    registry.WaitsInOrder registry.capacity client (queued client) := by
  have waits {session : Session} (found : registry.get? client = some session) :
      session.backlog.messages = (queued client).rtake registry.capacity := by
    rw [queues client session found]
  have room {session : Session} (found : registry.get? client = some session) :
      session.backlog.capacity = registry.capacity := by
    rw [queues client session found]
  constructor
  case newest => exact List.drop_suffix _ _
  case number =>
    rw [List.rtake, List.length_drop]
    omega
  case resumed =>
    intro connection messages
    rw [resumed_iff, hasPersisted_iff]
    constructor
    · rintro ⟨session, found, away, rfl⟩
      exact ⟨⟨session, found, away⟩, waits found⟩
    · rintro ⟨⟨session, found, away⟩, rfl⟩
      exact ⟨session, found, away, (waits found).symm⟩
  case drained => exact fun messages => drained_iff.trans queues.gives_iff
  case removed => exact fun messages => removed_iff.trans queues.gives_iff
  case kept =>
    intro message kept
    rw [queued_iff, Option.isSome_iff_exists]
    constructor
    · rintro ⟨session, found, tells⟩
      exact ⟨⟨session, found⟩, room found ▸ tells⟩
    · rintro ⟨⟨session, found⟩, tells⟩
      exact ⟨session, found, (room found).symm ▸ tells⟩
  case fits =>
    intro session found
    rw [← room found]
    exact queues.fits found
  case created =>
    intro connection notHere
    have free : registry.hasActive client = false := by
      rcases notHere with missing | kept
      · simp [hasActive, state?, missing]
      · obtain ⟨session, found, away⟩ := hasPersisted_iff.mp kept
        exact not_hasActive_of_away found away
    rw [answer_create connection free]
    exact ⟨_, _, rfl, (get?_put ..).trans (if_pos rfl), rfl⟩
  case suspended => exact waiting_suspend registry client
  case refused => exact fun request error refused => eq_of_refused refused

/-- Whatever has been asked of a registry that was empty at first, what has been queued for a client
since then waits in its queue. -/
theorem waits_in_order (capacity : Nat) (history : List Request) (client : String) :
    ((empty capacity).after history).WaitsInOrder capacity client
      (queuedSince client ((empty capacity).record history)) := by
  have waits := (queues_after capacity history).waitsInOrder client
  rwa [capacity_after] at waits

end Run

end TopicBroker.Registry

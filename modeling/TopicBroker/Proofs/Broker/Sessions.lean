import TopicBroker.Proofs.Broker.Routing

/-!
# What coming and going does

The operations on the session of one client are settled here, first the four
single steps and then the two that put steps together.  In a consistent broker
none of them stops halfway: the stored filters are valid, so a resumed client
can be handed all retained messages, and the stored will has a valid topic, so
it can be published when the session is torn down.
-/

namespace TopicBroker.Broker

variable {broker : Broker}

section Steps

/-- The broker after a client was given a fresh session. -/
def withFresh (broker : Broker) (client : String) (connection : ConnectionId) : Broker :=
  { broker with
    subscriptions :=
      if broker.registry.hasPersisted client then (broker.subscriptions.unsubscribeAll client).1
      else broker.subscriptions
    registry := broker.registry.counted.put client
      (.fresh client ⟨broker.registry.nextToken, connection⟩ broker.registry.capacity) }

/-- The broker after a kept session was bound to a connection. -/
def withBound (broker : Broker) (client : String) (session : Session) (connection : ConnectionId) :
    Broker :=
  { broker with
    registry := broker.registry.counted.put client
      (session.boundTo ⟨broker.registry.nextToken, connection⟩) }

/-- The broker after a session was released from its connection. -/
def withUnbound (broker : Broker) (client : String) (session : Session) : Broker :=
  { broker with registry := broker.registry.put client { session with link := none } }

/-- The broker without the session of a client and without its subscriptions. -/
def without (broker : Broker) (client : String) : Broker :=
  { broker with
    registry := broker.registry.erase client
    subscriptions := (broker.subscriptions.unsubscribeAll client).1 }

section Read

variable (broker : Broker) (client : String) (session : Session) (connection : ConnectionId)
  (other : String)

theorem get?_withFresh :
    (broker.withFresh client connection).registry.get? other =
      if other = client then
        some (.fresh client ⟨broker.registry.nextToken, connection⟩ broker.registry.capacity)
      else broker.registry.get? other :=
  Registry.get?_put broker.registry.counted client other _

theorem get?_withBound :
    (broker.withBound client session connection).registry.get? other =
      if other = client then some (session.boundTo ⟨broker.registry.nextToken, connection⟩)
      else broker.registry.get? other :=
  Registry.get?_put broker.registry.counted client other _

theorem get?_withUnbound :
    (broker.withUnbound client session).registry.get? other =
      if other = client then some { session with link := none } else broker.registry.get? other :=
  Registry.get?_put broker.registry client other _

theorem get?_without :
    (broker.without client).registry.get? other =
      if other = client then none else broker.registry.get? other :=
  Registry.get?_erase broker.registry client other

end Read

/-- The retained messages that the filters of a client select, as deliveries to a connection. -/
def replayedTo (broker : Broker) (client : String) (connection : ConnectionId) : List Delivery :=
  (broker.subscriptions.filtersOf client).flatMap fun (filter, granted) =>
    broker.replayed filter granted connection

theorem of_mem_replayedTo {client : String} {connection : ConnectionId} {delivery : Delivery}
    (member : delivery ∈ broker.replayedTo client connection) :
    delivery.connection = connection ∧ delivery.message.retain = true := by
  obtain ⟨_, _, replayed⟩ := List.mem_flatMap.mp member
  exact of_mem_replayed replayed

theorem mapM_eq_ok {ε α β : Type} {act : α → Except ε β} {result : α → β} {items : List α}
    (each : ∀ item ∈ items, act item = .ok (result item)) :
    items.mapM act = .ok (items.map result) := by
  induction items with
  | nil => rfl
  | cons item items ih =>
      have later := ih fun other member => each other (List.mem_cons_of_mem item member)
      rw [List.mapM_cons, each item (List.mem_cons_self ..), later]
      rfl

variable (broker) (client : String) (connection : ConnectionId)

theorem settles_createSession :
    (broker.createSession client connection).Settles broker
      (fun error => broker.registry.hasActive client = true ∧
        error = .session (.alreadyActive client))
      (fun token after deliveries => broker.registry.hasActive client = false ∧
        token = broker.registry.nextToken ∧ after = broker.withFresh client connection ∧
        deliveries = []) := by
  unfold createSession
  simp only [Registry.create_eq]
  cases active : broker.registry.hasActive client with
  | true =>
      -- The subscriptions were not touched, since no session is kept for a client that is here.
      have kept : broker.registry.hasPersisted client = false := by
        simp_all [Registry.hasActive, Registry.hasPersisted]
      simp only [kept]
      exact Outcome.settles_refuse ⟨trivial, rfl⟩
  | false => exact Outcome.settles_accept ⟨rfl, rfl, rfl, rfl⟩

theorem settles_suspendSession :
    (broker.suspendSession client).Settles broker
      (fun error => broker.registry.get? client = none ∧ error = .session (.unknownClient client))
      (fun _ after deliveries => ∃ session, broker.registry.get? client = some session ∧
        after = broker.withUnbound client session ∧ deliveries = []) := by
  unfold suspendSession Registry.suspend
  cases broker.registry.get? client with
  | none => exact Outcome.settles_refuse ⟨rfl, rfl⟩
  | some session => exact Outcome.settles_accept ⟨session, rfl, rfl, rfl⟩

theorem settles_removeSession :
    (broker.removeSession client).Settles broker
      (fun error => broker.registry.get? client = none ∧ error = .session (.unknownClient client))
      (fun _ after deliveries => ∃ session, broker.registry.get? client = some session ∧
        after = broker.without client ∧ deliveries = []) := by
  unfold removeSession
  rw [Registry.remove_eq]
  cases broker.registry.get? client with
  | none => exact Outcome.settles_refuse ⟨rfl, rfl⟩
  | some session => exact Outcome.settles_accept ⟨session, rfl, rfl, rfl⟩

variable {broker}

theorem mapM_replay (consistent : broker.Consistent) :
    ((broker.subscriptions.filtersOf client).mapM fun (filter, granted) =>
        broker.replay filter granted connection) =
      .ok ((broker.subscriptions.filtersOf client).map fun (filter, granted) =>
        broker.replayed filter granted connection) := by
  apply mapM_eq_ok
  rintro ⟨filter, granted⟩ member
  exact replay_of_valid (consistent.valid_of_mem_filtersOf member) granted connection

theorem Consistent.withFresh (consistent : broker.Consistent) :
    (broker.withFresh client connection).Consistent := by
  have fresh : (Session.fresh client ⟨broker.registry.nextToken, connection⟩
      broker.registry.capacity).Sound broker.settings.maxQueuedMessages
        broker.settings.maxTopicLevels client := by
    rw [consistent.capacity]
    exact Session.sound_fresh _
  unfold Broker.withFresh
  split
  case isTrue =>
    exact (consistent.unsubscribeAll client).put rfl (Registry.get?_counted broker.registry) fresh
  case isFalse => exact consistent.put rfl (Registry.get?_counted broker.registry) fresh

section Kept

variable {client} {session : Session} (found : broker.registry.get? client = some session)
include found

theorem Consistent.withBound (consistent : broker.Consistent) :
    (broker.withBound client session connection).Consistent :=
  consistent.put rfl (Registry.get?_counted broker.registry)
    ((consistent.sessions client session found).boundTo _)

theorem Consistent.withUnbound (consistent : broker.Consistent) :
    (broker.withUnbound client session).Consistent :=
  consistent.put rfl (fun _ => rfl) (consistent.sessions client session found).unbound

theorem resumeSession_of_away (consistent : broker.Consistent) (away : session.link = none) :
    broker.resumeSession client connection =
      (broker.withBound client session connection).accept broker.registry.nextToken
        (broker.replayedTo client connection ++
          session.backlog.messages.map (⟨connection, ·⟩)) := by
  have replays := mapM_replay client connection (consistent.withBound connection found)
  simp only [Broker.withBound] at replays
  simp only [resumeSession, Registry.resume_of_away connection found away, replays]
  rw [← List.flatMap_def]
  rfl

end Kept

theorem Consistent.without (consistent : broker.Consistent) :
    (broker.without client).Consistent :=
  (consistent.erase client).unsubscribeAll client

theorem settles_resumeSession (consistent : broker.Consistent) :
    (broker.resumeSession client connection).Settles broker
      (fun error =>
        (broker.registry.get? client = none ∧ error = .session (.unknownClient client)) ∨
        (broker.registry.hasActive client = true ∧ error = .session (.alreadyActive client)))
      (fun token after deliveries => ∃ session, broker.registry.get? client = some session ∧
        session.link = none ∧ token = broker.registry.nextToken ∧
        after = broker.withBound client session connection ∧
        deliveries = broker.replayedTo client connection ++
          session.backlog.messages.map (⟨connection, ·⟩)) := by
  cases found : broker.registry.get? client with
  | none =>
      simp only [resumeSession, Registry.resume, found]
      exact Outcome.settles_refuse (Or.inl ⟨trivial, rfl⟩)
  | some session =>
      cases here : session.isActive with
      | true =>
          have active := Registry.hasActive_iff.mpr ⟨session, found, here⟩
          have same : session.client = client := (consistent.sessions client session found).client
          simp only [resumeSession, Registry.resume_of_here connection found here, same]
          exact Outcome.settles_refuse (Or.inr ⟨active, rfl⟩)
      | false =>
          have away : session.link = none := by simpa [Session.isActive] using here
          rw [resumeSession_of_away connection found consistent away]
          exact Outcome.settles_accept ⟨session, rfl, away, rfl, rfl, rfl⟩

end Steps

section Connect

variable (client : String) (request : ConnectRequest)

theorem checkWill_eq (broker : Broker) (will : Option Will) :
    broker.checkWill will =
      match will.bind fun left => nameFault? broker.settings.maxTopicLevels left.topic with
      | some fault => .error (.invalidName fault)
      | none => .ok () := by
  cases will with
  | none => rfl
  | some left => exact checkName_eq _ _

theorem get?_enterRequest (broker : Broker) (other : String) :
    (broker.enterRequest client request).registry.get? other =
      if other = client then (broker.registry.get? client).map fun session =>
        { session with clean := request.clean, will := request.will }
      else broker.registry.get? other := by
  unfold enterRequest
  cases found : broker.registry.get? client with
  | none =>
      by_cases same : other = client
      · rw [if_pos same, same]
        exact found
      · rw [if_neg same]
  | some session => exact Registry.get?_put broker.registry client other _

/-- A client that is not here is bound to a connection, in the session that is kept for it or in a
fresh one. -/
def Binds (broker : Broker) (client : String) (connection : ConnectionId) (present : Bool)
    (bound : Broker) (deliveries : List Delivery) : Prop :=
  if present then ∃ session, broker.registry.get? client = some session ∧ session.link = none ∧
    bound = broker.withBound client session connection ∧
    deliveries = broker.replayedTo client connection ++
      session.backlog.messages.map (⟨connection, ·⟩)
  else broker.registry.hasActive client = false ∧ bound = broker.withFresh client connection ∧
    deliveries = []

theorem exists_binds (consistent : broker.Consistent) (connection : ConnectionId)
    (notHere : broker.registry.hasActive client = false) (present : Bool)
    (kept : present = true → broker.registry.hasPersisted client = true) :
    ∃ (bound : Broker) (deliveries : List Delivery),
      (if present then broker.resumeSession client connection
        else broker.createSession client connection) =
          bound.accept broker.registry.nextToken deliveries ∧
      broker.Binds client connection present bound deliveries := by
  cases present with
  | true =>
      obtain ⟨session, found, away⟩ := Registry.hasPersisted_iff.mp (kept rfl)
      exact ⟨_, _, resumeSession_of_away connection found consistent away, session, found, away,
        rfl, rfl⟩
  | false =>
      rcases settles_createSession broker client connection with
        ⟨error, _, here, _⟩ | ⟨token, bound, deliveries, accepted, _, rfl, effect⟩
      · rw [notHere] at here
        cases here
      · exact ⟨bound, deliveries, accepted, notHere, effect⟩

theorem Consistent.of_binds (consistent : broker.Consistent) {client : String}
    {connection : ConnectionId} {present : Bool} {bound : Broker} {deliveries : List Delivery}
    (binds : broker.Binds client connection present bound deliveries) :
    broker.Continues bound := by
  unfold Binds at binds
  split at binds
  case isTrue =>
    obtain ⟨session, found, _, rfl, _⟩ := binds
    exact ⟨consistent.withBound connection found, rfl⟩
  case isFalse =>
    obtain ⟨_, rfl, _⟩ := binds
    exact ⟨consistent.withFresh client connection, rfl⟩

theorem get?_of_binds {client : String} {connection : ConnectionId} {present : Bool}
    {bound : Broker} {deliveries : List Delivery}
    (binds : broker.Binds client connection present bound deliveries) :
    ∃ session : Session, session.link = some ⟨broker.registry.nextToken, connection⟩ ∧
      session.will = request.will ∧ session.backlog.messages = [] ∧
      ∀ other, (bound.enterRequest client request).registry.get? other =
        if other = client then some session else broker.registry.get? other := by
  have entered {session : Session}
      (here : session.link = some ⟨broker.registry.nextToken, connection⟩)
      (taken : session.backlog.messages = [])
      (reads : ∀ other, bound.registry.get? other =
        if other = client then some session else broker.registry.get? other) :
      ∃ session : Session, session.link = some ⟨broker.registry.nextToken, connection⟩ ∧
        session.will = request.will ∧ session.backlog.messages = [] ∧
        ∀ other, (bound.enterRequest client request).registry.get? other =
          if other = client then some session else broker.registry.get? other := by
    refine ⟨{ session with clean := request.clean, will := request.will }, here, rfl, taken,
      fun other => ?_⟩
    rw [get?_enterRequest, reads, reads, if_pos rfl]
    split <;> rfl
  unfold Binds at binds
  split at binds
  case isTrue =>
    obtain ⟨session, _, _, rfl, _⟩ := binds
    exact entered rfl rfl (get?_withBound broker client session connection)
  case isFalse =>
    obtain ⟨_, rfl, _⟩ := binds
    exact entered rfl rfl (get?_withFresh broker client connection)

theorem connect_of_rejected {connection : ConnectionId} {generated : String} {error : BrokerError}
    (rejected : effectiveClient request generated = .error error) :
    broker.connect request connection generated = broker.refuse error := by
  simp only [connect, rejected]

theorem connect_of_invalidWill {client : String} {connection : ConnectionId} {generated : String}
    {error : TopicError} (effective : effectiveClient request generated = .ok client)
    (invalidWill : broker.checkWill request.will = .error error) :
    broker.connect request connection generated = broker.refuse (.topic error) := by
  simp only [connect, effective, invalidWill]

theorem connect_of_here {client : String} {connection : ConnectionId} {generated : String}
    (effective : effectiveClient request generated = .ok client)
    (validWill : broker.checkWill request.will = .ok ())
    (here : broker.registry.hasActive client = true) :
    broker.connect request connection generated =
      broker.refuse (.session (.alreadyActive client)) := by
  have state : broker.registry.state? client = some .active := by
    simpa [Registry.hasActive] using here
  simp only [connect, effective, validWill, state]

theorem connect_of_away {client : String} {connection : ConnectionId} {generated : String}
    (effective : effectiveClient request generated = .ok client)
    (validWill : broker.checkWill request.will = .ok ())
    (notHere : broker.registry.hasActive client = false) :
    broker.connect request connection generated =
      (if broker.registry.hasPersisted client && !request.clean then
        broker.resumeSession client connection
      else broker.createSession client connection).andThen fun token bound =>
        (bound.enterRequest client request).accept
          ⟨client, token, broker.registry.hasPersisted client && !request.clean⟩ [] := by
  unfold Registry.hasActive at notHere
  unfold Registry.hasPersisted
  simp only [connect, effective, validWill]
  cases state : broker.registry.state? client with
  | none => simp
  | some kept =>
      cases kept with
      | active => simp [state] at notHere
      | persisted => simp

theorem settles_connect (consistent : broker.Consistent) (connection : ConnectionId)
    (generated : String) :
    (broker.connect request connection generated).Settles broker
      (fun error => effectiveClient request generated = .error error ∨
        ∃ client, effectiveClient request generated = .ok client ∧
          ((∃ will fault, request.will = some will ∧
            nameFault? broker.settings.maxTopicLevels will.topic = some fault ∧
            error = .topic (.invalidName fault)) ∨
          ((∀ will, request.will = some will →
            nameFault? broker.settings.maxTopicLevels will.topic = none) ∧
            broker.registry.hasActive client = true ∧ error = .session (.alreadyActive client))))
      (fun reply after deliveries => ∃ bound : Broker,
        effectiveClient request generated = .ok reply.client ∧
        (∀ will, request.will = some will →
          nameFault? broker.settings.maxTopicLevels will.topic = none) ∧
        reply.token = broker.registry.nextToken ∧
        reply.sessionPresent = (broker.registry.hasPersisted reply.client && !request.clean) ∧
        broker.Binds reply.client connection reply.sessionPresent bound deliveries ∧
        after = bound.enterRequest reply.client request) := by
  cases effective : effectiveClient request generated with
  | error error =>
      rw [connect_of_rejected request effective]
      exact Outcome.settles_refuse (Or.inl rfl)
  | ok client =>
      have checked := checkWill_eq broker request.will
      cases faulty : request.will.bind fun left =>
          nameFault? broker.settings.maxTopicLevels left.topic with
      | some fault =>
          obtain ⟨will, left, fails⟩ := Option.bind_eq_some_iff.mp faulty
          rw [faulty] at checked
          rw [connect_of_invalidWill request effective checked]
          exact Outcome.settles_refuse
            (Or.inr ⟨client, rfl, Or.inl ⟨will, fault, left, fails, rfl⟩⟩)
      | none =>
          have valid := Option.bind_eq_none_iff.mp faulty
          rw [faulty] at checked
          cases here : broker.registry.hasActive client with
          | true =>
              rw [connect_of_here request effective checked here]
              exact Outcome.settles_refuse (Or.inr ⟨client, rfl, Or.inr ⟨valid, here, rfl⟩⟩)
          | false =>
              obtain ⟨bound, deliveries, accepted, binds⟩ := exists_binds client consistent
                connection here (broker.registry.hasPersisted client && !request.clean)
                fun present => (Bool.and_eq_true_iff.mp present).1
              rw [connect_of_away request effective checked here, accepted,
                Outcome.andThen_accept rfl, List.append_nil]
              exact Outcome.settles_accept ⟨bound, rfl, valid, rfl, rfl, binds, rfl⟩

end Connect

section Release

/-- The will that is published when a session is released. -/
def leftWill (ending : Ending) (session : Session) : Option Will :=
  match ending with
  | .disconnect => none
  | .connectionLost => session.will

/-- The broker after a session was torn down: the will is taken from it, and then it is removed or
kept. -/
def tornDown (broker : Broker) (client : String) (session : Session) : Broker :=
  let willTaken : Broker :=
    { broker with registry := broker.registry.put client { session with will := none } }
  if session.clean then willTaken.without client
  else willTaken.withUnbound client { session with will := none }

@[simp]
theorem settings_tornDown (broker : Broker) (client : String) (session : Session) :
    (broker.tornDown client session).settings = broker.settings := by
  unfold tornDown
  split <;> rfl

theorem get?_tornDown (broker : Broker) (client : String) (session : Session) (other : String) :
    (broker.tornDown client session).registry.get? other =
      if other = client then
        if session.clean then none else some { session with will := none, link := none }
      else broker.registry.get? other := by
  unfold tornDown
  by_cases clean : session.clean = true
  · rw [if_pos clean, if_pos clean, get?_without, Registry.get?_put]
    split <;> rfl
  · rw [if_neg clean, if_neg clean, get?_withUnbound, Registry.get?_put]
    split <;> rfl

variable (client : String)

theorem Consistent.tornDown (consistent : broker.Consistent) {session : Session}
    (found : broker.registry.get? client = some session) :
    (broker.tornDown client session).Consistent := by
  have sound := consistent.sessions client session found
  have quiet : ({ session with will := none } : Session).Sound
      broker.settings.maxQueuedMessages broker.settings.maxTopicLevels client :=
    sound.entered session.clean fun _ left => by cases left
  have willTaken := consistent.put rfl (fun _ => rfl) quiet
  unfold Broker.tornDown
  split
  case isTrue => exact willTaken.without client
  case isFalse => exact willTaken.withUnbound (by rw [Registry.get?_put, if_pos rfl])

section Current

variable {client} {session : Session} {token : Token} {ending : Ending}
  (current : broker.registry.isCurrent client token = true)
  (found : broker.registry.get? client = some session)
include current found

theorem release_of_current :
    broker.release client token ending =
      ((broker.tornDown client session).accept () []).andThen fun _ torn =>
        match leftWill ending session with
        | none => torn.accept true []
        | some will =>
          (torn.publish will.topic will.payload will.qos will.retain).andThen fun _ published =>
            published.accept true [] := by
  -- The session is there after the will was taken from it, so tearing it down is not refused.
  have here := Registry.get?_put broker.registry client client { session with will := none }
  rw [if_pos rfl] at here
  have tears : (if session.clean then
        ({ broker with registry := broker.registry.put client { session with will := none } } :
          Broker).removeSession client
      else ({ broker with registry := broker.registry.put client { session with will := none } } :
          Broker).suspendSession client) = (broker.tornDown client session).accept () [] := by
    unfold tornDown
    split
    case isTrue =>
      simp only [removeSession, Registry.remove_eq, here]
      rfl
    case isFalse =>
      simp only [suspendSession, Registry.suspend, here]
      rfl
  simp only [release, current, found, tears]
  cases ending with
  | disconnect => rfl
  | connectionLost => cases left : session.will <;> simp [leftWill, left]

theorem release_of_silent (silent : leftWill ending session = none) :
    broker.release client token ending = (broker.tornDown client session).accept true [] := by
  rw [release_of_current current found, silent]
  rfl

theorem release_of_will {will : Will} {after : Broker} {deliveries : List Delivery}
    (left : leftWill ending session = some will)
    (published : (broker.tornDown client session).publish will.topic will.payload will.qos
      will.retain = after.accept () deliveries) :
    broker.release client token ending = after.accept true deliveries := by
  rw [release_of_current current found, left]
  apply Outcome.andThen_accept
  simp only [published]
  rw [Outcome.andThen_accept rfl, List.append_nil]

end Current

/-- A will that is left has a topic that it can be published on. -/
theorem valid_of_leftWill (consistent : broker.Consistent) {client : String} {session : Session}
    (found : broker.registry.get? client = some session) {ending : Ending} {will : Will}
    (left : leftWill ending session = some will) :
    nameFault? broker.settings.maxTopicLevels will.topic = none := by
  cases ending with
  | disconnect => cases left
  | connectionLost => exact (consistent.sessions client session found).will will left

/-- When a session has been torn down, the will that it has left can be published. -/
theorem publish_tornDown (consistent : broker.Consistent) {client : String} {session : Session}
    (found : broker.registry.get? client = some session) {ending : Ending} {will : Will}
    (left : leftWill ending session = some will) :
    ∃ after deliveries,
      (broker.tornDown client session).publish will.topic will.payload will.qos will.retain =
        after.accept () deliveries ∧
      (broker.tornDown client session).Publishes will.topic will.payload will.qos will.retain after
        deliveries := by
  rcases settles_publish (consistent.tornDown client found) will.topic will.payload will.qos
    will.retain with ⟨error, _, fault, faulty, _⟩ | ⟨_, after, deliveries, accepted, publishes⟩
  · rw [settings_tornDown, valid_of_leftWill consistent found left] at faulty
    cases faulty
  · exact ⟨after, deliveries, accepted, publishes⟩

theorem release_of_stale {token : Token}
    (stale : broker.registry.isCurrent client token = false) (ending : Ending) :
    broker.release client token ending = broker.accept false [] := by
  simp [release, stale]

theorem settles_release (consistent : broker.Consistent) (token : Token) (ending : Ending) :
    (broker.release client token ending).Settles broker (fun _ => False)
      (fun flag after deliveries =>
        flag = broker.registry.isCurrent client token ∧
        if flag then ∃ session, broker.registry.get? client = some session ∧
          match leftWill ending session with
          | none => after = broker.tornDown client session ∧ deliveries = []
          | some will => (broker.tornDown client session).Publishes will.topic will.payload will.qos
              will.retain after deliveries
        else after = broker ∧ deliveries = []) := by
  cases current : broker.registry.isCurrent client token with
  | false =>
      rw [release_of_stale client current]
      exact Outcome.settles_accept ⟨rfl, rfl, rfl⟩
  | true =>
      obtain ⟨session, link, found, _, _⟩ := Registry.isCurrent_iff.mp current
      cases left : leftWill ending session with
      | none =>
          rw [release_of_silent current found left]
          refine Outcome.settles_accept ⟨rfl, session, found, ?_⟩
          rw [left]
          exact ⟨rfl, rfl⟩
      | some will =>
          obtain ⟨after, deliveries, accepted, publishes⟩ := publish_tornDown consistent found left
          rw [release_of_will current found left accepted]
          refine Outcome.settles_accept ⟨rfl, session, found, ?_⟩
          rw [left]
          exact publishes

end Release

section Keeps

variable (client : String) (connection : ConnectionId)

theorem Consistent.createSession (consistent : broker.Consistent) :
    broker.Continues (broker.createSession client connection).broker := by
  apply consistent.continues (settles_createSession broker client connection)
  rintro token after deliveries ⟨_, _, rfl, _⟩
  exact ⟨consistent.withFresh client connection, rfl⟩

theorem Consistent.resumeSession (consistent : broker.Consistent) :
    broker.Continues (broker.resumeSession client connection).broker := by
  apply consistent.continues (settles_resumeSession client connection consistent)
  rintro token after deliveries ⟨session, found, _, _, rfl, _⟩
  exact ⟨consistent.withBound connection found, rfl⟩

theorem Consistent.suspendSession (consistent : broker.Consistent) :
    broker.Continues (broker.suspendSession client).broker := by
  apply consistent.continues (settles_suspendSession broker client)
  rintro _ after deliveries ⟨session, found, rfl, _⟩
  exact ⟨consistent.withUnbound found, rfl⟩

theorem Consistent.removeSession (consistent : broker.Consistent) :
    broker.Continues (broker.removeSession client).broker := by
  apply consistent.continues (settles_removeSession broker client)
  rintro _ after deliveries ⟨session, _, rfl, _⟩
  exact ⟨consistent.without client, rfl⟩

theorem Consistent.enterRequest (consistent : broker.Consistent) {request : ConnectRequest}
    (valid : ∀ will, request.will = some will →
      nameFault? broker.settings.maxTopicLevels will.topic = none) :
    broker.Continues (broker.enterRequest client request) := by
  unfold Broker.enterRequest
  split
  case h_1 => exact ⟨consistent, rfl⟩
  case h_2 session found =>
    exact ⟨consistent.put rfl (fun _ => rfl)
      ((consistent.sessions client session found).entered request.clean valid), rfl⟩

theorem Consistent.connect (consistent : broker.Consistent) (request : ConnectRequest)
    (generated : String) :
    broker.Continues (broker.connect request connection generated).broker := by
  apply consistent.continues (settles_connect request consistent connection generated)
  rintro reply after deliveries ⟨bound, _, valid, _, _, binds, rfl⟩
  have continues := consistent.of_binds binds
  rw [← continues.settings] at valid
  have enters := continues.consistent.enterRequest reply.client valid
  exact ⟨enters.consistent, enters.settings.trans continues.settings⟩

theorem Consistent.release (consistent : broker.Consistent) (token : Token) (ending : Ending) :
    broker.Continues (broker.release client token ending).broker := by
  apply consistent.continues (settles_release client consistent token ending)
  rintro flag after deliveries ⟨_, effect⟩
  split at effect
  case isTrue =>
    obtain ⟨session, found, effect⟩ := effect
    have torn := consistent.tornDown client found
    have sameSettings := settings_tornDown broker client session
    split at effect
    case h_1 =>
      obtain ⟨rfl, _⟩ := effect
      exact ⟨torn, sameSettings⟩
    case h_2 =>
      have published := torn.of_publishes effect
      exact ⟨published.consistent, published.settings.trans sameSettings⟩
  case isFalse =>
    obtain ⟨rfl, _⟩ := effect
    exact ⟨consistent, rfl⟩

end Keeps

end TopicBroker.Broker

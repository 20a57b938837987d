import TopicBroker.Proofs.Broker.Upkeep

/-!
# Brokers that retain nothing

A broker is compared with one whose settings differ in one respect: it retains
nothing.  The second broker is at every moment the first one with its retained
messages forgotten, and what it hands over is what the first one hands over
without the replays.  This is shown for each operation and then for whole
histories by induction.

It rests on two facts about the first broker.  No operation of it is refused
because of what it retains, and no message that waits is a replay: the flag of a
retained message is set when it is replayed and at no other time.
-/

namespace TopicBroker

/-- The broker with its retained messages forgotten, and no others to come. -/
def Broker.withoutRetained (broker : Broker) : Broker :=
  { broker with
    settings := { broker.settings with retainAvailable := false }
    retained := .empty broker.settings.maxTopicLevels }

/-- Keep the messages that are no replays. -/
def withoutReplays (deliveries : List Delivery) : List Delivery :=
  deliveries.filter fun delivery => !delivery.message.retain

/-- The outcome with nothing retained and without the replays. -/
def Outcome.withoutRetained {α : Type} (outcome : Outcome α) : Outcome α where
  result := outcome.result
  broker := outcome.broker.withoutRetained
  deliveries := withoutReplays outcome.deliveries

/-- The first outcome differs from the second by what is retained and by the replays only. -/
structure Outcome.LacksReplaysOf (outcome full : Outcome Reply) : Prop where
  result : outcome.result = full.result
  registry : outcome.broker.registry = full.broker.registry
  subscriptions : outcome.broker.subscriptions = full.broker.subscriptions
  nothingRetained : outcome.broker.retainedCount = 0
  deliveries : outcome.deliveries = withoutReplays full.deliveries

/-- The messages that a connection is handed in the course of a history. -/
def handedTo (connection : ConnectionId) (outcomes : List (Outcome Reply)) : List Publish :=
  ((outcomes.flatMap Outcome.deliveries).filter fun delivery =>
    delivery.connection = connection).map Delivery.message

section Deliveries

variable {deliveries : List Delivery}

theorem withoutReplays_append (deliveries further : List Delivery) :
    withoutReplays (deliveries ++ further) = withoutReplays deliveries ++ withoutReplays further :=
  List.filter_append ..

theorem withoutReplays_eq_self
    (firsthand : ∀ delivery ∈ deliveries, delivery.message.retain = false) :
    withoutReplays deliveries = deliveries := by
  apply List.filter_eq_self.mpr
  intro delivery member
  rw [firsthand delivery member]
  rfl

theorem withoutReplays_eq_nil
    (replays : ∀ delivery ∈ deliveries, delivery.message.retain = true) :
    withoutReplays deliveries = [] := by
  apply List.filter_eq_nil_iff.mpr
  intro delivery member
  simp [replays delivery member]

end Deliveries

namespace Outcome

variable {α β : Type}

theorem withoutRetained_map (change : α → β) (outcome : Outcome α) :
    (outcome.map change).withoutRetained = outcome.withoutRetained.map change := rfl

theorem withoutRetained_andThen (outcome : Outcome α) (next : α → Broker → Outcome β)
    (goesOn : ∀ answer, next answer outcome.broker.withoutRetained =
      (next answer outcome.broker).withoutRetained) :
    (outcome.andThen next).withoutRetained = outcome.withoutRetained.andThen next := by
  obtain ⟨result, broker, deliveries⟩ := outcome
  cases result with
  | error error => rfl
  | ok answer =>
      simp only [andThen, withoutRetained, goesOn]
      cases (next answer broker).result with
      | error error => rfl
      | ok last => simp [withoutReplays]

end Outcome

namespace Broker

variable {broker : Broker}

theorem Consistent.withoutRetained (consistent : broker.Consistent) :
    broker.withoutRetained.Consistent where
  maxQos := consistent.maxQos
  filterLevels := consistent.filterLevels
  retainedLevels := rfl
  capacity := consistent.capacity
  subscriptions := consistent.subscriptions
  sessions := consistent.sessions

theorem withoutRetained_accept {α : Type} (answer : α) (deliveries : List Delivery) :
    (broker.accept answer deliveries).withoutRetained =
      broker.withoutRetained.accept answer (withoutReplays deliveries) := rfl

/-- No message that waits is a replay. -/
def NoReplayWaits (broker : Broker) : Prop :=
  ∀ client, ∀ message ∈ broker.registry.waiting client, message.retain = false

section Step

theorem replayed_withoutRetained (filter : String) (granted : Qos) (connection : ConnectionId) :
    broker.withoutRetained.replayed filter granted connection = [] := rfl

theorem replayedTo_withoutRetained (client : String) (connection : ConnectionId) :
    broker.withoutRetained.replayedTo client connection = [] := by
  simp [replayedTo, replayed_withoutRetained]

theorem withoutReplays_replayed (broker : Broker) (filter : String) (granted : Qos)
    (connection : ConnectionId) :
    withoutReplays (broker.replayed filter granted connection) = [] :=
  withoutReplays_eq_nil fun _ member => (of_mem_replayed member).2

theorem withoutReplays_replayedTo (broker : Broker) (client : String) (connection : ConnectionId) :
    withoutReplays (broker.replayedTo client connection) = [] :=
  withoutReplays_eq_nil fun _ member => (of_mem_replayedTo member).2

theorem subscribe_withoutRetained (consistent : broker.Consistent) (filter client : String)
    (qos : Qos) :
    broker.withoutRetained.subscribe filter client qos =
      (broker.subscribe filter client qos).withoutRetained := by
  cases found : broker.registry.get? client with
  | none =>
      simp only [subscribe, withoutRetained, found]
      rfl
  | some session =>
      cases outcome : broker.subscriptions.subscribe filter session.client qos with
      | error error =>
          simp only [subscribe, withoutRetained, found, outcome]
          rfl
      | ok reached =>
          obtain ⟨subscriptions, granted⟩ := reached
          have valid := (Subscriptions.revises_subscribe outcome).1
          rw [consistent.filterLevels, ← consistent.retainedLevels] at valid
          cases bound : session.connection? with
          | none =>
              simp only [subscribe, withoutRetained, found, outcome, bound]
              rfl
          | some connection =>
              have replays := @replay_of_valid { broker with subscriptions } filter valid granted
                connection
              have answers : broker.subscribe filter client qos =
                  ({ broker with subscriptions } : Broker).accept granted
                    (({ broker with subscriptions } : Broker).replayed filter granted
                      connection) := by
                simp only [subscribe, found, outcome, bound, replays]
              rw [answers, withoutRetained_accept, withoutReplays_replayed]
              simp only [subscribe, withoutRetained, found, outcome, bound]
              rfl

theorem unsubscribe_withoutRetained (filter client : String) :
    broker.withoutRetained.unsubscribe filter client =
      (broker.unsubscribe filter client).withoutRetained := by
  unfold unsubscribe
  simp only [withoutRetained]
  cases broker.subscriptions.unsubscribe filter client with
  | error error => rfl
  | ok reached => rfl

theorem retain_of_mem_route {topic : String} {payload : Payload} {qos : Qos}
    {recipients : List (String × Qos)} {registry : Registry} {delivery : Delivery}
    (member : delivery ∈ (route topic payload qos recipients registry).2) :
    delivery.message.retain = false := by
  rw [snd_route] at member
  obtain ⟨recipient, _, handed⟩ := List.mem_filterMap.mp member
  obtain ⟨connection, _, rfl⟩ := Option.map_eq_some_iff.mp handed
  rfl

theorem publish_of_valid (consistent : broker.Consistent) {topic : String}
    (valid : nameFault? broker.settings.maxTopicLevels topic = none) (payload : Payload) (qos : Qos)
    (retain : Bool) :
    let routed := route topic payload qos ((broker.subscriptions.hits topic).map fun subscription =>
      (subscription.client, subscription.granted)) broker.registry
    ∃ retained, broker.publish topic payload qos retain =
      ({ broker with retained, registry := routed.1 } : Broker).accept () routed.2 := by
  unfold publish
  simp only [Subscriptions.recipients_eq, consistent.filterLevels, valid]
  cases retain && broker.settings.retainAvailable with
  | false => exact ⟨broker.retained, rfl⟩
  | true =>
      -- The topic has passed the same check under the same limit already.
      rcases Retained.retain_cases broker.retained topic payload qos with
        ⟨fault, faulty, _⟩ | ⟨_, retained, accepted, _, _⟩
      · rw [consistent.retainedLevels, valid] at faulty
        cases faulty
      · simp only [if_true, accepted]
        exact ⟨retained, rfl⟩

theorem publish_withoutRetained (consistent : broker.Consistent) (topic : String)
    (payload : Payload) (qos : Qos) (retain : Bool) :
    broker.withoutRetained.publish topic payload qos retain =
      (broker.publish topic payload qos retain).withoutRetained := by
  cases valid : nameFault? broker.settings.maxTopicLevels topic with
  | some fault =>
      unfold publish
      simp only [withoutRetained, Subscriptions.recipients_eq, consistent.filterLevels, valid]
      rfl
  | none =>
      obtain ⟨retained, published⟩ := publish_of_valid consistent valid payload qos retain
      rw [published, withoutRetained_accept,
        withoutReplays_eq_self fun delivery member => retain_of_mem_route member]
      unfold publish
      simp only [withoutRetained, Subscriptions.recipients_eq, consistent.filterLevels, valid,
        Bool.and_false]
      rfl

theorem retain_withoutRetained (consistent : broker.Consistent) (topic : String)
    (payload : Payload) (qos : Qos) :
    broker.withoutRetained.retain topic payload qos =
      (broker.retain topic payload qos).withoutRetained := by
  rcases settles_retain consistent topic payload qos with
    ⟨_, refused, fault, faulty, rfl⟩ | ⟨_, after, deliveries, accepted, valid, retained, rfl, rfl, _⟩
  · rw [refused]
    simp only [retain, withoutRetained, checkName_eq, faulty]
    rfl
  · rw [accepted]
    simp only [retain, withoutRetained, checkName_eq, valid]
    rfl

theorem createSession_withoutRetained (client : String) (connection : ConnectionId) :
    broker.withoutRetained.createSession client connection =
      (broker.createSession client connection).withoutRetained := by
  unfold createSession
  simp only [withoutRetained]
  cases broker.registry.create client connection with
  | error error => rfl
  | ok reached => rfl

theorem resumeSession_withoutRetained (consistent : broker.Consistent)
    (noReplayWaits : broker.NoReplayWaits) (client : String) (connection : ConnectionId) :
    broker.withoutRetained.resumeSession client connection =
      (broker.resumeSession client connection).withoutRetained := by
  cases found : broker.registry.get? client with
  | none =>
      simp only [resumeSession, withoutRetained, Registry.resume, found]
      rfl
  | some session =>
      cases here : session.isActive with
      | true =>
          have refused := Registry.resume_of_here connection found here
          simp only [resumeSession, withoutRetained, refused]
          rfl
      | false =>
          have away : session.link = none := by simpa [Session.isActive] using here
          have waits (message : Publish) (member : message ∈ session.backlog.messages) :
              message.retain = false := by
            rw [← Registry.waiting_of_get? found] at member
            exact noReplayWaits client message member
          have same : broker.withoutRetained.registry.get? client = some session := found
          rw [resumeSession_of_away connection found consistent away,
            resumeSession_of_away connection same consistent.withoutRetained away,
            replayedTo_withoutRetained]
          have kept : withoutReplays (session.backlog.messages.map (⟨connection, ·⟩)) =
              session.backlog.messages.map (⟨connection, ·⟩) := by
            apply withoutReplays_eq_self
            intro delivery member
            obtain ⟨message, waiting, rfl⟩ := List.mem_map.mp member
            exact waits message waiting
          rw [withoutRetained_accept, withoutReplays_append, withoutReplays_replayedTo, kept]
          rfl

theorem suspendSession_withoutRetained (client : String) :
    broker.withoutRetained.suspendSession client =
      (broker.suspendSession client).withoutRetained := by
  unfold suspendSession
  simp only [withoutRetained]
  cases broker.registry.suspend client with
  | error error => rfl
  | ok registry => rfl

theorem removeSession_withoutRetained (client : String) :
    broker.withoutRetained.removeSession client =
      (broker.removeSession client).withoutRetained := by
  unfold removeSession
  simp only [withoutRetained]
  cases broker.registry.remove client with
  | error error => rfl
  | ok reached => rfl

theorem enterRequest_withoutRetained (client : String) (request : ConnectRequest) :
    broker.withoutRetained.enterRequest client request =
      (broker.enterRequest client request).withoutRetained := by
  unfold enterRequest
  simp only [withoutRetained]
  cases broker.registry.get? client with
  | none => rfl
  | some session => rfl

theorem connect_withoutRetained (consistent : broker.Consistent)
    (noReplayWaits : broker.NoReplayWaits) (request : ConnectRequest) (connection : ConnectionId)
    (generated : String) :
    broker.withoutRetained.connect request connection generated =
      (broker.connect request connection generated).withoutRetained := by
  have sameWill : broker.withoutRetained.checkWill request.will = broker.checkWill request.will :=
    rfl
  cases effective : effectiveClient request generated with
  | error error =>
      simp only [connect, effective]
      rfl
  | ok client =>
      cases checked : broker.checkWill request.will with
      | error error =>
          rw [checked] at sameWill
          simp only [connect, effective, checked, sameWill]
          rfl
      | ok _ =>
          rw [checked] at sameWill
          cases here : broker.registry.hasActive client with
          | true =>
              rw [connect_of_here request effective checked here,
                connect_of_here request effective sameWill here]
              rfl
          | false =>
              have sameKept : broker.withoutRetained.registry.hasPersisted client =
                  broker.registry.hasPersisted client := rfl
              rw [connect_of_away request effective checked here,
                connect_of_away request effective sameWill here, sameKept]
              symm
              refine (Outcome.withoutRetained_andThen _ _ fun token => ?_).trans ?_
              · rw [enterRequest_withoutRetained]
                rfl
              · congr 1
                split
                · exact (resumeSession_withoutRetained consistent noReplayWaits client
                    connection).symm
                · exact (createSession_withoutRetained client connection).symm

theorem tornDown_withoutRetained (client : String) (session : Session) :
    broker.withoutRetained.tornDown client session =
      (broker.tornDown client session).withoutRetained := by
  unfold tornDown
  split
  · rfl
  · rfl

theorem release_withoutRetained (consistent : broker.Consistent) (client : String) (token : Token)
    (ending : Ending) :
    broker.withoutRetained.release client token ending =
      (broker.release client token ending).withoutRetained := by
  cases current : broker.registry.isCurrent client token with
  | false =>
      have stale : broker.withoutRetained.registry.isCurrent client token = false := current
      rw [release_of_stale client current, release_of_stale client stale]
      rfl
  | true =>
      obtain ⟨session, _, found, _⟩ := Registry.isCurrent_iff.mp current
      have same : broker.withoutRetained.registry.get? client = some session := found
      have alsoCurrent : broker.withoutRetained.registry.isCurrent client token = true := current
      rw [release_of_current current found, release_of_current alsoCurrent same,
        tornDown_withoutRetained]
      symm
      apply Outcome.withoutRetained_andThen
      intro _
      cases left : leftWill ending session with
      | none => rfl
      | some will =>
          have torn := consistent.tornDown client found
          have publishes := publish_withoutRetained torn will.topic will.payload will.qos will.retain
          have goesOn := Outcome.withoutRetained_andThen
            ((broker.tornDown client session).publish will.topic will.payload will.qos will.retain)
            (fun _ published => published.accept true []) fun _ => rfl
          rw [← publishes] at goesOn
          exact goesOn.symm

/-- To retain nothing commutes with every operation. -/
theorem perform_withoutRetained (consistent : broker.Consistent)
    (noReplayWaits : broker.NoReplayWaits) (operation : Operation) :
    broker.withoutRetained.perform operation =
      (broker.perform operation).withoutRetained := by
  cases operation with
  | subscribe filter client qos =>
      rw [perform, perform, subscribe_withoutRetained consistent, Outcome.withoutRetained_map]
  | unsubscribe filter client =>
      rw [perform, perform, unsubscribe_withoutRetained, Outcome.withoutRetained_map]
  | unsubscribeAll client => rfl
  | publish topic payload qos retain =>
      rw [perform, perform, publish_withoutRetained consistent, Outcome.withoutRetained_map]
  | retain topic payload qos =>
      rw [perform, perform, retain_withoutRetained consistent, Outcome.withoutRetained_map]
  | createSession client connection =>
      rw [perform, perform, createSession_withoutRetained, Outcome.withoutRetained_map]
  | resumeSession client connection =>
      rw [perform, perform, resumeSession_withoutRetained consistent noReplayWaits,
        Outcome.withoutRetained_map]
  | suspendSession client =>
      rw [perform, perform, suspendSession_withoutRetained, Outcome.withoutRetained_map]
  | removeSession client =>
      rw [perform, perform, removeSession_withoutRetained, Outcome.withoutRetained_map]
  | connect request connection generated =>
      rw [perform, perform, connect_withoutRetained consistent noReplayWaits,
        Outcome.withoutRetained_map]
  | release client token ending =>
      rw [perform, perform, release_withoutRetained consistent, Outcome.withoutRetained_map]

end Step

section Run

variable (settings : BrokerSettings)

theorem noReplayWaits_run (history : List Operation) :
    ((start settings).run history).NoReplayWaits :=
  fun _ _ waits => (waitable_of_waiting settings history waits).notRetained

theorem outcomes_withoutRetained (earlier history : List Operation) :
    ((start settings).run earlier).withoutRetained.outcomes history =
      (((start settings).run earlier).outcomes history).map Outcome.withoutRetained := by
  induction history generalizing earlier with
  | nil => rfl
  | cons operation history ih =>
      have consistent := ((consistent_start settings).run earlier).consistent
      have performed := perform_withoutRetained consistent (noReplayWaits_run settings earlier)
        operation
      have later := ih (earlier ++ [operation])
      rw [run_append_singleton] at later
      rw [outcomes, outcomes, performed, List.map_cons]
      exact congrArg _ later

end Run

end Broker

section Handed

variable (connection : ConnectionId)

theorem handedTo_withoutRetained (outcomes : List (Outcome Reply)) :
    handedTo connection (outcomes.map Outcome.withoutRetained) =
      (handedTo connection outcomes).filter fun message => !message.retain := by
  have deliveries : (outcomes.map Outcome.withoutRetained).flatMap Outcome.deliveries =
      withoutReplays (outcomes.flatMap Outcome.deliveries) := by
    rw [List.flatMap_map, withoutReplays, List.filter_flatMap]
    rfl
  rw [handedTo, deliveries, withoutReplays, handedTo, List.filter_map, List.filter_comm]
  rfl

end Handed

namespace Broker

/-- Of two brokers that differ in whether they retain messages, the one that does not answers the same
and keeps the same sessions and subscriptions after every operation of a history.  Each connection is
handed the same messages in the same order, apart from the replays. -/
theorem outcomes_without_retaining (settings : BrokerSettings) (history : List Operation) :
    let retaining := (start { settings with retainAvailable := true }).outcomes history
    let plain := (start { settings with retainAvailable := false }).outcomes history
    List.Forall₂ Outcome.LacksReplaysOf plain retaining ∧
      ∀ connection, handedTo connection plain =
        (handedTo connection retaining).filter fun message => !message.retain := by
  intro retaining plain
  have same : plain = retaining.map Outcome.withoutRetained :=
    outcomes_withoutRetained { settings with retainAvailable := true } [] history
  rw [same]
  refine ⟨?_, fun connection => handedTo_withoutRetained connection retaining⟩
  rw [List.forall₂_map_left_iff]
  exact List.forall₂_same.mpr fun _ _ => ⟨rfl, rfl, rfl, rfl, rfl⟩

end Broker

end TopicBroker

import TopicBroker.Proofs.Broker.Consistency

/-!
# What subscribing and publishing do

Routing a message to its recipients is described by two equations: one for the
messages that are handed over, and one for the session of any client, which is
the old one after the messages for this client have arrived.  From these, and
from what is known of subscriptions and retained messages, every operation of
this part is settled.
-/

namespace TopicBroker.Broker

/-- The message that a client gets that was granted the second guarantee. -/
def messageFor (topic : String) (payload : Payload) (qos granted : Qos) : Publish where
  topic := topic
  payload := payload
  qos := min qos granted
  retain := false
  duplicate := false

/-- The messages that wait for a client that is away when a topic is published: one for each of its
subscriptions that match, in the order of a search, without those of the weakest guarantee. -/
def awaited (subscriptions : Subscriptions) (client topic : String) (payload : Payload) (qos : Qos) :
    List Publish :=
  ((subscriptions.found client topic).map fun subscription =>
    messageFor topic payload qos subscription.granted).filter fun message =>
      Qos.atMostOnce < message.qos

section Route

variable (topic : String) (payload : Payload) (qos : Qos)

/-- What the recipients among which a client is listed let arrive for it. -/
def arriving (client : String) (recipients : List (String × Qos)) : List Publish :=
  ((recipients.filter fun recipient => recipient.1 = client).map fun recipient =>
    messageFor topic payload qos recipient.2).filter fun message => Qos.atMostOnce < message.qos

theorem arriving_cons_of_ne {client other : String} (different : other ≠ client) (granted : Qos)
    (recipients : List (String × Qos)) :
    arriving topic payload qos client ((other, granted) :: recipients) =
      arriving topic payload qos client recipients := by
  simp [arriving, different]

theorem arriving_cons_self (client : String) (granted : Qos) (recipients : List (String × Qos)) :
    arriving topic payload qos client ((client, granted) :: recipients) =
      if (messageFor topic payload qos granted).qos.survivesAbsence then
        messageFor topic payload qos granted :: arriving topic payload qos client recipients
      else arriving topic payload qos client recipients := by
  simp [arriving, List.filter_cons, Qos.survivesAbsence_iff]

theorem route_cons_of_missing {client : String} {registry : Registry}
    (missing : registry.get? client = none) (granted : Qos) (recipients : List (String × Qos)) :
    route topic payload qos ((client, granted) :: recipients) registry =
      route topic payload qos recipients registry := by
  simp [route, missing]

theorem route_cons_of_here {client : String} {registry : Registry} {session : Session} {link : Link}
    (found : registry.get? client = some session) (here : session.link = some link) (granted : Qos)
    (recipients : List (String × Qos)) :
    route topic payload qos ((client, granted) :: recipients) registry =
      ((route topic payload qos recipients registry).1,
        ⟨link.connection, messageFor topic payload qos granted⟩ ::
          (route topic payload qos recipients registry).2) := by
  simp [route, found, Session.connection?, here, messageFor, Publish.first]

theorem route_cons_of_away {client : String} {registry : Registry} {session : Session}
    (found : registry.get? client = some session) (away : session.link = none) (granted : Qos)
    (recipients : List (String × Qos)) :
    route topic payload qos ((client, granted) :: recipients) registry =
      route topic payload qos recipients
        (if (messageFor topic payload qos granted).qos.survivesAbsence then
          registry.put client (session.enqueue (messageFor topic payload qos granted)).1
        else registry) := by
  simp only [route, found, Session.connection?, away, Option.map_none]
  rfl

theorem link_get?_put_enqueue {client : String} {registry : Registry} {session : Session}
    (found : registry.get? client = some session) (message : Publish) (other : String) :
    ((registry.put client (session.enqueue message).1).get? other).map Session.link =
      (registry.get? other).map Session.link := by
  rw [Registry.get?_put]
  split
  case isTrue same =>
    rw [same, found]
    rfl
  case isFalse => rfl

theorem get?_route (recipients : List (String × Qos)) (registry : Registry) (client : String) :
    (route topic payload qos recipients registry).1.get? client =
      (registry.get? client).map fun session =>
        session.await (arriving topic payload qos client recipients) := by
  -- A message that waits changes the registry that the later recipients are looked up in.
  induction recipients generalizing registry with
  | nil =>
      have nothing : arriving topic payload qos client [] = [] := rfl
      simp [route, nothing]
  | cons recipient recipients ih =>
      obtain ⟨other, granted⟩ := recipient
      cases found : registry.get? other with
      | none =>
          rw [route_cons_of_missing topic payload qos found, ih]
          by_cases same : other = client
          · rw [← same, found]
            rfl
          · rw [arriving_cons_of_ne topic payload qos same]
      | some session =>
          cases here : session.link with
          | some link =>
              rw [route_cons_of_here topic payload qos found here, ih]
              by_cases same : other = client
              · have isActive : session.isActive = true := by simp [Session.isActive, here]
                rw [← same, found, Option.map_some, Option.map_some,
                  Session.await_of_isActive isActive, Session.await_of_isActive isActive]
              · rw [arriving_cons_of_ne topic payload qos same]
          | none =>
              rw [route_cons_of_away topic payload qos found here, ih]
              by_cases same : other = client
              · subst same
                rw [arriving_cons_self]
                split
                · rw [Registry.get?_put, if_pos rfl, found, Option.map_some, Option.map_some,
                    Session.await_cons here]
                · rfl
              · rw [arriving_cons_of_ne topic payload qos same]
                split
                · rw [Registry.get?_put, if_neg (Ne.symm same)]
                · rfl

theorem snd_route (recipients : List (String × Qos)) (registry : Registry) :
    (route topic payload qos recipients registry).2 =
      recipients.filterMap fun recipient =>
        (registry.connection? recipient.1).map fun connection =>
          ⟨connection, messageFor topic payload qos recipient.2⟩ := by
  induction recipients generalizing registry with
  | nil => rfl
  | cons recipient recipients ih =>
      obtain ⟨client, granted⟩ := recipient
      cases found : registry.get? client with
      | none =>
          have unbound : registry.connection? client = none := by
            rw [Registry.connection?_eq, found]
            rfl
          rw [route_cons_of_missing topic payload qos found, ih, List.filterMap_cons_none]
          rw [unbound, Option.map_none]
      | some session =>
          cases here : session.link with
          | some link =>
              have bound : registry.connection? client = some link.connection := by
                simp [Registry.connection?_eq, found, here]
              rw [route_cons_of_here topic payload qos found here, ih, List.filterMap_cons_some]
              rw [bound, Option.map_some]
          | none =>
              have unbound : registry.connection? client = none := by
                simp [Registry.connection?_eq, found, here]
              rw [route_cons_of_away topic payload qos found here, ih, List.filterMap_cons_none]
              · split
                · simp only [Registry.connection?_eq, link_get?_put_enqueue found]
                · rfl
              · rw [unbound, Option.map_none]

theorem counters_route (recipients : List (String × Qos)) (registry : Registry) :
    (route topic payload qos recipients registry).1.nextToken = registry.nextToken ∧
      (route topic payload qos recipients registry).1.capacity = registry.capacity := by
  induction recipients generalizing registry with
  | nil => exact ⟨rfl, rfl⟩
  | cons recipient recipients ih =>
      obtain ⟨client, granted⟩ := recipient
      cases found : registry.get? client with
      | none =>
          rw [route_cons_of_missing topic payload qos found]
          exact ih registry
      | some session =>
          cases here : session.link with
          | some link =>
              rw [route_cons_of_here topic payload qos found here]
              exact ih registry
          | none =>
              rw [route_cons_of_away topic payload qos found here]
              split
              · exact ih _
              · exact ih registry

end Route

/-- What a valid filter replays to a connection. -/
def replayed (broker : Broker) (filter : String) (granted : Qos) (connection : ConnectionId) :
    List Delivery :=
  if broker.settings.retainAvailable then
    (broker.retained.selected filter granted).map fun (topic, message) =>
      ⟨connection, .first topic message.payload message.qos true⟩
  else []

variable {broker : Broker}

theorem replay_of_valid {filter : String}
    (valid : filterFault? broker.retained.maxLevels filter = none) (granted : Qos)
    (connection : ConnectionId) :
    broker.replay filter granted connection = .ok (broker.replayed filter granted connection) := by
  unfold replay replayed
  rw [Retained.select_eq, valid]
  split <;> rfl

theorem of_mem_replayed {filter : String} {granted : Qos} {connection : ConnectionId}
    {delivery : Delivery} (member : delivery ∈ broker.replayed filter granted connection) :
    delivery.connection = connection ∧ delivery.message.retain = true := by
  unfold replayed at member
  split at member
  case isTrue =>
    obtain ⟨selected, _, rfl⟩ := List.mem_map.mp member
    exact ⟨rfl, rfl⟩
  case isFalse => cases member

theorem settles_subscribe (consistent : broker.Consistent) (filter client : String) (qos : Qos) :
    (broker.subscribe filter client qos).Settles broker
      (fun error =>
        (broker.registry.get? client = none ∧ error = .session (.unknownClient client)) ∨
        (broker.registry.get? client ≠ none ∧
          ∃ fault, filterFault? broker.settings.maxTopicLevels filter = some fault ∧
            error = .topic (.invalidFilter fault)))
      (fun granted after deliveries => ∃ session subscriptions,
        broker.registry.get? client = some session ∧
        broker.subscriptions.subscribe filter client qos = .ok (subscriptions, granted) ∧
        after = { broker with subscriptions } ∧
        deliveries = (session.connection?.map (after.replayed filter granted)).getD []) := by
  unfold subscribe
  cases found : broker.registry.get? client with
  | none => exact Outcome.settles_refuse (Or.inl ⟨rfl, rfl⟩)
  | some session =>
      have same : session.client = client := (consistent.sessions client session found).client
      rcases Subscriptions.subscribe_cases broker.subscriptions filter client qos with
        ⟨fault, faulty, refused⟩ | ⟨valid, subscriptions, accepted, _⟩
      · simp only [same, refused]
        rw [consistent.filterLevels] at faulty
        exact Outcome.settles_refuse (Or.inr ⟨by simp, fault, faulty, rfl⟩)
      · simp only [same, accepted]
        cases bound : session.connection? with
        | none => exact Outcome.settles_accept ⟨session, _, rfl, rfl, rfl, by rw [bound]; rfl⟩
        | some connection =>
            rw [consistent.filterLevels, ← consistent.retainedLevels] at valid
            have replays := @replay_of_valid { broker with subscriptions } filter valid
              (min qos broker.subscriptions.maxQos) connection
            simp only [replays]
            exact Outcome.settles_accept ⟨session, _, rfl, rfl, rfl, by rw [bound]; rfl⟩

theorem settles_unsubscribe (consistent : broker.Consistent) (filter client : String) :
    (broker.unsubscribe filter client).Settles broker
      (fun error => ∃ fault, filterFault? broker.settings.maxTopicLevels filter = some fault ∧
        error = .topic (.invalidFilter fault))
      (fun removed after deliveries => ∃ subscriptions,
        broker.subscriptions.unsubscribe filter client = .ok (subscriptions, removed) ∧
        after = { broker with subscriptions } ∧ deliveries = []) := by
  unfold unsubscribe
  rcases Subscriptions.unsubscribe_cases broker.subscriptions filter client with
    ⟨fault, faulty, refused⟩ | ⟨_, subscriptions, removed, accepted, _⟩
  · simp only [refused]
    rw [consistent.filterLevels] at faulty
    exact Outcome.settles_refuse ⟨fault, faulty, rfl⟩
  · simp only [accepted]
    exact Outcome.settles_accept ⟨subscriptions, rfl, rfl, rfl⟩

/-- What publishing a message changes and hands over. -/
structure Publishes (broker : Broker) (topic : String) (payload : Payload) (qos : Qos)
    (retain : Bool) (after : Broker) (deliveries : List Delivery) : Prop where
  valid : nameFault? broker.settings.maxTopicLevels topic = none
  settings : after.settings = broker.settings
  subscriptions : after.subscriptions = broker.subscriptions
  retained : if retain && broker.settings.retainAvailable then
      broker.retained.retain topic payload qos = .ok after.retained
    else after.retained = broker.retained
  nextToken : after.registry.nextToken = broker.registry.nextToken
  capacity : after.registry.capacity = broker.registry.capacity
  sessions (client : String) : after.registry.get? client =
    (broker.registry.get? client).map fun session =>
      session.await (awaited broker.subscriptions client topic payload qos)
  deliveries : deliveries = (broker.subscriptions.hits topic).filterMap fun subscription =>
    (broker.registry.connection? subscription.client).map fun connection =>
      ⟨connection, messageFor topic payload qos subscription.granted⟩

theorem arriving_hits (consistent : broker.Consistent) {topic : String}
    (valid : nameFault? broker.settings.maxTopicLevels topic = none) (payload : Payload) (qos : Qos)
    (client : String) :
    arriving topic payload qos client ((broker.subscriptions.hits topic).map fun subscription =>
        (subscription.client, subscription.granted)) =
      awaited broker.subscriptions client topic payload qos := by
  have ownHits := Subscriptions.filter_hits consistent.subscriptions (plainLevels_of_valid valid)
    client
  rw [awaited, ← ownHits]
  unfold arriving
  congr 1
  rw [List.filter_map, List.map_map]
  rfl

theorem publishes_route (consistent : broker.Consistent) {topic : String}
    (valid : nameFault? broker.settings.maxTopicLevels topic = none) {payload : Payload} {qos : Qos}
    {retain : Bool} {retained : Retained}
    (kept : if retain && broker.settings.retainAvailable then
        broker.retained.retain topic payload qos = .ok retained
      else retained = broker.retained) :
    let routed := route topic payload qos ((broker.subscriptions.hits topic).map fun subscription =>
      (subscription.client, subscription.granted)) broker.registry
    broker.Publishes topic payload qos retain { broker with retained, registry := routed.1 }
      routed.2 := by
  refine ⟨valid, rfl, rfl, kept, (counters_route ..).1, (counters_route ..).2, fun client => ?_, ?_⟩
  · rw [get?_route, arriving_hits consistent valid]
  · rw [snd_route, List.filterMap_map]
    rfl

theorem settles_publish (consistent : broker.Consistent) (topic : String) (payload : Payload)
    (qos : Qos) (retain : Bool) :
    (broker.publish topic payload qos retain).Settles broker
      (fun error => ∃ fault, nameFault? broker.settings.maxTopicLevels topic = some fault ∧
        error = .topic (.invalidName fault))
      (fun _ after deliveries => broker.Publishes topic payload qos retain after deliveries) := by
  unfold publish
  rw [Subscriptions.recipients_eq, consistent.filterLevels]
  cases valid : nameFault? broker.settings.maxTopicLevels topic with
  | some fault => exact Outcome.settles_refuse ⟨fault, rfl, rfl⟩
  | none =>
      cases asked : retain && broker.settings.retainAvailable with
      | false =>
          refine Outcome.settles_accept (publishes_route consistent valid ?_)
          rw [asked]
          rfl
      | true =>
          -- The topic has passed the same check under the same limit already.
          rcases Retained.retain_cases broker.retained topic payload qos with
            ⟨fault, faulty, _⟩ | ⟨_, retained, accepted, _, _⟩
          · rw [consistent.retainedLevels, valid] at faulty
            cases faulty
          · simp only [if_true, accepted]
            refine Outcome.settles_accept (publishes_route consistent valid ?_)
            rw [asked]
            exact accepted

theorem settles_retain (consistent : broker.Consistent) (topic : String) (payload : Payload)
    (qos : Qos) :
    (broker.retain topic payload qos).Settles broker
      (fun error => ∃ fault, nameFault? broker.settings.maxTopicLevels topic = some fault ∧
        error = .topic (.invalidName fault))
      (fun _ after deliveries => nameFault? broker.settings.maxTopicLevels topic = none ∧
        ∃ retained, after = { broker with retained } ∧ deliveries = [] ∧
          if broker.settings.retainAvailable then
            broker.retained.retain topic payload qos = .ok retained
          else retained = broker.retained) := by
  unfold retain
  by_cases available : broker.settings.retainAvailable = true
  · simp only [available, if_true]
    rcases Retained.retain_cases broker.retained topic payload qos with
      ⟨fault, faulty, refused⟩ | ⟨valid, retained, accepted, _, _⟩
    · rw [consistent.retainedLevels] at faulty
      simp only [refused]
      exact Outcome.settles_refuse ⟨fault, faulty, rfl⟩
    · rw [consistent.retainedLevels] at valid
      simp only [accepted]
      exact Outcome.settles_accept ⟨valid, retained, rfl, rfl, rfl⟩
  · simp only [available]
    rw [checkName_eq]
    cases nameFault? broker.settings.maxTopicLevels topic with
    | some fault => exact Outcome.settles_refuse ⟨fault, rfl, rfl⟩
    | none => exact Outcome.settles_accept ⟨rfl, broker.retained, rfl, rfl, by simp⟩

section Keeps

theorem Consistent.subscribe (consistent : broker.Consistent) (filter client : String) (qos : Qos) :
    broker.Continues (broker.subscribe filter client qos).broker := by
  apply consistent.continues (settles_subscribe consistent filter client qos)
  rintro granted after deliveries ⟨session, subscriptions, _, accepted, rfl, _⟩
  obtain ⟨_, _, revises⟩ := Subscriptions.revises_subscribe accepted
  exact ⟨consistent.withSubscriptions revises.maxQos revises.maxLevels
    (consistent.subscriptions.subscribe accepted), rfl⟩

theorem Consistent.unsubscribe (consistent : broker.Consistent) (filter client : String) :
    broker.Continues (broker.unsubscribe filter client).broker := by
  apply consistent.continues (settles_unsubscribe consistent filter client)
  rintro removed after deliveries ⟨subscriptions, accepted, rfl, _⟩
  obtain ⟨_, revises⟩ := Subscriptions.revises_unsubscribe accepted
  exact ⟨consistent.withSubscriptions revises.maxQos revises.maxLevels
    (consistent.subscriptions.unsubscribe accepted), rfl⟩

theorem Consistent.of_publishes (consistent : broker.Consistent) {topic : String}
    {payload : Payload} {qos : Qos} {retain : Bool} {after : Broker} {deliveries : List Delivery}
    (publishes : broker.Publishes topic payload qos retain after deliveries) :
    broker.Continues after := by
  refine ⟨⟨?_, ?_, ?_, ?_, ?_, ?_⟩, publishes.settings⟩
  · rw [publishes.subscriptions, publishes.settings]
    exact consistent.maxQos
  · rw [publishes.subscriptions, publishes.settings]
    exact consistent.filterLevels
  · rw [publishes.settings, ← consistent.retainedLevels]
    have retained := publishes.retained
    split at retained
    case isTrue => exact Retained.maxLevels_retain retained
    case isFalse => rw [retained]
  · rw [publishes.capacity, publishes.settings]
    exact consistent.capacity
  · rw [publishes.subscriptions]
    exact consistent.subscriptions
  · intro client session found
    rw [publishes.sessions, Option.map_eq_some_iff] at found
    obtain ⟨earlier, present, rfl⟩ := found
    rw [publishes.settings]
    exact (consistent.sessions client earlier present).await _

theorem Consistent.publish (consistent : broker.Consistent) (topic : String) (payload : Payload)
    (qos : Qos) (retain : Bool) : broker.Continues (broker.publish topic payload qos retain).broker :=
  consistent.continues (settles_publish consistent topic payload qos retain)
    fun _ _ _ publishes => consistent.of_publishes publishes

theorem Consistent.retain (consistent : broker.Consistent) (topic : String) (payload : Payload)
    (qos : Qos) : broker.Continues (broker.retain topic payload qos).broker := by
  apply consistent.continues (settles_retain consistent topic payload qos)
  rintro _ after deliveries ⟨_, retained, rfl, _, kept⟩
  refine ⟨consistent.withRetained ?_, rfl⟩
  split at kept
  case isTrue => exact Retained.maxLevels_retain kept
  case isFalse => rw [kept]

end Keeps

end TopicBroker.Broker

import TopicBroker.Proofs.Broker.Lifetimes

/-!
# Retained messages and their replay

Messages are retained in three ways: on their own, with a message that is
published, and with the will of a client whose connection is lost.  What a
topic retains after a history is the last of all messages that were retained on
it, unless this one is empty.

So a client that is here and subscribes to a filter is handed one message for
each topic that the filter matches and on which something has been retained
last.  Nothing is remembered of earlier replays: a client that subscribes again
is handed all of them again.
-/

namespace TopicBroker.Broker

/-- What an operation retains, with its topic.  An operation that is refused retains nothing. -/
def retention? (broker : Broker) (operation : Operation) : Option (String × RetainedMessage) :=
  match (broker.perform operation).result with
  | .error _ => none
  | .ok reply => broker.asksToRetain operation reply

/-- All that a run of operations retains, in order. -/
def retentions (broker : Broker) : List Operation → List (String × RetainedMessage)
  | [] => []
  | operation :: operations =>
    (broker.retention? operation).toList ++ (broker.next operation).retentions operations

/-- The last message that was retained on a topic. -/
def latestOn (topic : String) (retentions : List (String × RetainedMessage)) :
    Option RetainedMessage :=
  ((retentions.filter fun retention => retention.1 = topic).getLast?).map Prod.snd

/-- A retained message as it is handed to a connection that was granted the given guarantee. -/
def replayOf (connection : ConnectionId) (granted : Qos) (entry : String × RetainedMessage) :
    Delivery :=
  ⟨connection, { topic := entry.1, payload := entry.2.payload, qos := min entry.2.qos granted
                 retain := true, duplicate := false }⟩

section Latest

theorem latestOn_append_singleton (topic : String) (earlier : List (String × RetainedMessage))
    (retention : String × RetainedMessage) :
    latestOn topic (earlier ++ [retention]) =
      if retention.1 = topic then some retention.2 else latestOn topic earlier := by
  unfold latestOn
  rw [List.filter_append]
  by_cases same : retention.1 = topic
  · simp [same]
  · simp [same]

theorem retentions_append (broker : Broker) (earlier later : List Operation) :
    broker.retentions (earlier ++ later) =
      broker.retentions earlier ++ (broker.run earlier).retentions later := by
  induction earlier generalizing broker with
  | nil => rfl
  | cons operation earlier ih =>
      have rest := ih (broker.next operation)
      rw [List.cons_append, retentions, rest, retentions, List.append_assoc]
      rfl

variable {broker : Broker}

theorem takes_next (consistent : broker.Consistent)
    (available : broker.settings.retainAvailable = true) (operation : Operation) :
    broker.retained.Takes (broker.retention? operation) (broker.next operation).retained := by
  unfold retention?
  rcases settles_effect consistent operation with
    ⟨error, refused, _⟩ | ⟨reply, after, deliveries, accepted, effect⟩
  · rw [next, refused]
    rfl
  · have takes := effect.takes
    rw [if_pos available] at takes
    rw [next_of_accept accepted, accepted]
    exact takes

theorem leftBy_eq_some_iff {last message : RetainedMessage} :
    Retained.leftBy last.payload last.qos = some message ↔
      last = message ∧ message.payload ≠ [] := by
  unfold Retained.leftBy
  by_cases empty : last.payload = []
  · rw [if_pos (by simpa using empty)]
    constructor
    · rintro ⟨⟩
    · rintro ⟨rfl, occupied⟩
      exact absurd empty occupied
  · rw [if_neg (by simpa using empty), Option.some.injEq]
    constructor
    · rintro rfl
      exact ⟨rfl, empty⟩
    · rintro ⟨rfl, _⟩
      rfl

/-- A topic retains what was retained on it last, and nothing if that was empty. -/
theorem get?_retained_run (settings : BrokerSettings) (available : settings.retainAvailable = true)
    (history : List Operation) (topic : String) :
    ((start settings).run history).retained.get? topic =
      (latestOn topic ((start settings).retentions history)).bind fun last =>
        Retained.leftBy last.payload last.qos := by
  induction history using List.reverseRecOn with
  | nil =>
      exact Retained.get?_empty settings.maxTopicLevels topic
  | append_singleton earlier operation ih =>
      have reached := (consistent_start settings).run earlier
      have takes := takes_next reached.consistent (reached.settings ▸ available) operation
      rw [run_next] at takes
      rw [retentions_append, retentions, retentions, List.append_nil]
      cases retains : ((start settings).run earlier).retention? operation with
      | none =>
          rw [retains] at takes
          have same : ((start settings).run (earlier ++ [operation])).retained =
              ((start settings).run earlier).retained := takes
          rw [same, ih, Option.toList_none, List.append_nil]
      | some retention =>
          rw [retains] at takes
          rw [Retained.get?_retain takes, ih, Option.toList_some, latestOn_append_singleton]
          by_cases same : topic = retention.1
          · rw [if_pos same, if_pos same.symm]
            rfl
          · rw [if_neg same, if_neg (Ne.symm same)]

end Latest

section Subscribe

/-- One message for each topic that the filter matches: the one that a history retains on it last,
unless it is empty. -/
structure LatestMatching (settings : BrokerSettings) (history : List Operation) (filter : String)
    (latest : List (String × RetainedMessage)) : Prop where
  once : (latest.map Prod.fst).Nodup
  mem : ∀ topic message, (topic, message) ∈ latest ↔ topicMatches filter topic = true ∧
    latestOn topic ((start settings).retentions history) = some message ∧ message.payload ≠ []

/-- After a history the client subscribes to the filter with this outcome. -/
structure ReplaysExactly (settings : BrokerSettings) (history : List Operation)
    (filter client : String) (qos : Qos) (outcome : Outcome Qos) : Prop where
  grants : ((start settings).run history).registry.get? client ≠ none →
    outcome.result = .ok (min qos settings.maxQos)
  /-- A client that is here is handed the latest messages, and subscribing again it is handed them
  again. -/
  here : ∀ session link, ((start settings).run history).registry.get? client = some session →
    session.link = some link →
      ∃ latest, LatestMatching settings history filter latest ∧
        outcome.deliveries = latest.map (replayOf link.connection (min qos settings.maxQos)) ∧
        ∀ again, (outcome.broker.subscribe filter client again).deliveries =
          latest.map (replayOf link.connection (min again settings.maxQos))
  away : ((start settings).run history).registry.hasPersisted client = true →
    outcome.deliveries = []

variable {broker : Broker}

theorem replayed_eq (available : broker.settings.retainAvailable = true)
    (sound : broker.retained.Sound) {filter : String}
    (valid : filterFault? broker.retained.maxLevels filter = none) (granted : Qos)
    (connection : ConnectionId) :
    broker.replayed filter granted connection =
      (broker.retained.held.filter fun entry => topicMatches filter entry.1).map
        (replayOf connection granted) := by
  rw [replayed, if_pos available, Retained.selected_eq sound valid, List.map_map]
  rfl

theorem latestMatching_held (settings : BrokerSettings)
    (available : settings.retainAvailable = true) (history : List Operation) (filter : String) :
    LatestMatching settings history filter
      (((start settings).run history).retained.held.filter fun entry =>
        topicMatches filter entry.1) := by
  have sound := sound_retained_run settings history
  refine ⟨(Retained.nodup_topics sound).sublist (List.filter_sublist.map _), fun topic message => ?_⟩
  rw [List.mem_filter, Retained.mem_held sound, get?_retained_run settings available,
    Option.bind_eq_some_iff, and_comm]
  refine and_congr_right fun _ => ?_
  simp only [leftBy_eq_some_iff]
  constructor
  · rintro ⟨_, last, rfl, occupied⟩
    exact ⟨last, occupied⟩
  · rintro ⟨last, occupied⟩
    exact ⟨message, last, rfl, occupied⟩

/-- A valid filter is granted to a client with a session, which is handed what is retained now if it
is here. -/
theorem subscribe_of_valid (consistent : broker.Consistent) (sound : broker.retained.Sound)
    (available : broker.settings.retainAvailable = true) {filter client : String}
    (valid : filterFault? broker.settings.maxTopicLevels filter = none)
    (known : broker.registry.get? client ≠ none) (qos : Qos) :
    (broker.subscribe filter client qos).result = .ok (min qos broker.settings.maxQos) ∧
      (broker.subscribe filter client qos).broker.registry = broker.registry ∧
      (broker.subscribe filter client qos).broker.retained = broker.retained ∧
      (broker.subscribe filter client qos).deliveries =
        ((broker.registry.connection? client).map fun connection =>
          (broker.retained.held.filter fun entry => topicMatches filter entry.1).map
            (replayOf connection (min qos broker.settings.maxQos))).getD [] := by
  rcases settles_subscribe consistent filter client qos with
    ⟨error, _, ⟨unknown, _⟩ | ⟨_, fault, faulty, _⟩⟩ |
      ⟨granted, after, deliveries, accepted, session, subscriptions, found, subscribed, rfl, rfl⟩
  · exact absurd unknown known
  · rw [valid] at faulty
    cases faulty
  · obtain ⟨_, rfl, _⟩ := Subscriptions.revises_subscribe subscribed
    rw [accepted, consistent.maxQos]
    refine ⟨rfl, rfl, rfl, ?_⟩
    rw [Registry.connection?_of_get? found]
    rw [← consistent.retainedLevels] at valid
    cases session.connection? with
    | none => rfl
    | some connection => exact replayed_eq available sound valid _ connection

/-- After every history a client that subscribes to a valid filter is handed what the history has
retained last, and nothing that is older. -/
theorem subscribe_replays (settings : BrokerSettings) (available : settings.retainAvailable = true)
    (history : List Operation) {filter : String}
    (valid : checkFilter settings.maxTopicLevels filter = .ok ()) (client : String) (qos : Qos) :
    ReplaysExactly settings history filter client qos
      (((start settings).run history).subscribe filter client qos) := by
  have reached := (consistent_start settings).run history
  have sound := sound_retained_run settings history
  have subscribed := reached.consistent.subscribe filter client qos
  have same : ((start settings).run history).settings = settings := reached.settings
  rw [checkFilter_eq_ok_iff] at valid
  have grants (known : ((start settings).run history).registry.get? client ≠ none) :=
    subscribe_of_valid reached.consistent sound (same.symm ▸ available) (same.symm ▸ valid) known qos
  rw [same] at grants
  refine ⟨fun known => (grants known).1, fun session link found linked => ?_, fun kept => ?_⟩
  · have known : ((start settings).run history).registry.get? client ≠ none := by
      rw [found]
      exact Option.some_ne_none session
    have bound : ((start settings).run history).registry.connection? client =
        some link.connection :=
      Registry.connection?_eq_some_iff.mpr ⟨session, link, found, linked, rfl⟩
    obtain ⟨_, sameRegistry, sameRetained, handed⟩ := grants known
    refine ⟨_, latestMatching_held settings available history filter, ?_, fun again => ?_⟩
    · rw [handed, bound]
      rfl
    -- Subscribing has changed neither what is retained nor where the client is.
    · have sameAfter := subscribed.settings.trans same
      obtain ⟨_, _, _, handedAgain⟩ := subscribe_of_valid subscribed.consistent
        (sameRetained ▸ sound) (sameAfter.symm ▸ available) (sameAfter.symm ▸ valid)
        (sameRegistry ▸ known) again
      rw [handedAgain, sameRegistry, sameRetained, sameAfter, bound]
      rfl
  · obtain ⟨session, found, away⟩ := Registry.hasPersisted_iff.mp kept
    obtain ⟨_, _, _, handed⟩ := grants (by rw [found]; exact Option.some_ne_none session)
    rw [handed, Registry.connection?_of_get? found, Session.connection?, away]
    rfl

/-- Four messages are retained in the three ways, and one of them is cleared again. -/
theorem subscribe_replays_latest :
    let history : List Operation :=
      [.createSession "ann" ⟨0⟩, .retain "a/b" [1] .exactlyOnce, .retain "a/c" [2] .atMostOnce,
        .publish "a/b" [3] .exactlyOnce true,
        .connect ⟨"bob", true, some ⟨"a/gone", [7], .atMostOnce, true⟩⟩ ⟨1⟩ "",
        .release "bob" ⟨2⟩ .connectionLost, .publish "a/c" [] .atLeastOnce true,
        .publish "a/b" [4] .atLeastOnce false]
    (default : BrokerSettings).retainAvailable = true ∧
      checkFilter (default : BrokerSettings).maxTopicLevels "a/+" = .ok () ∧
      ReplaysExactly default history "a/+" "ann" .atLeastOnce
        (((start default).run history).subscribe "a/+" "ann" .atLeastOnce) := by
  intro history
  have available : (default : BrokerSettings).retainAvailable = true := rfl
  have valid : checkFilter (default : BrokerSettings).maxTopicLevels "a/+" = .ok () := by
    decide +kernel
  exact ⟨available, valid, subscribe_replays default available history valid "ann" .atLeastOnce⟩

end Subscribe

end TopicBroker.Broker

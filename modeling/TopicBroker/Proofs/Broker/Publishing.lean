import TopicBroker.Proofs.Broker.Histories

/-!
# Publishing is exact

The effect of publishing is stated in terms of what can be read from outside:
the live subscriptions, the session of each client, and what each topic
retains.  Nothing is said about tries or about the way messages take, except
that the messages of one client wait in the order in which the search comes
upon its subscriptions.
-/

namespace TopicBroker.Broker

/-- The live subscriptions to filters that match a topic. -/
def matching (broker : Broker) (topic : String) : List Subscription :=
  broker.subscriptions.live.filter fun subscription => topicMatches subscription.filter topic

/-- A message is published with this outcome and nothing more. -/
structure PublishesExactly (broker : Broker) (topic : String) (payload : Payload) (qos : Qos)
    (retain : Bool) (outcome : Outcome Unit) : Prop where
  succeeds : outcome.result = .ok ()
  /-- One message is handed over for each matching subscription of a client that is here. -/
  handsOver : outcome.deliveries.Perm ((broker.matching topic).filterMap fun subscription =>
    (broker.registry.get? subscription.client).bind fun session => session.link.map fun link =>
      ⟨link.connection, messageFor topic payload qos subscription.granted⟩)
  /-- The search comes upon the subscriptions of a client in the order of their search keys. -/
  inOrder : ∃ recipients, broker.subscriptions.recipients topic = .ok recipients ∧
    ∀ client, recipients.filter (fun recipient => recipient.1 = client) =
      (broker.subscriptions.found client topic).map fun subscription =>
        (subscription.client, subscription.granted)
  /-- For a client that is away messages wait in this order, as many as there is room for.  Nothing
  else changes in any session. -/
  waits : ∀ client, outcome.broker.registry.get? client =
    (broker.registry.get? client).map fun session =>
      if session.link.isSome then session
      else { session with backlog := { session.backlog with
        messages := (session.backlog.messages ++
          awaited broker.subscriptions client topic payload qos).rtake
            broker.settings.maxQueuedMessages } }
  /-- The sessions of clients that are here, and of those that no message waits for, are the same. -/
  leavesOthers : ∀ client, broker.registry.hasPersisted client = false ∨
    (∀ subscription ∈ broker.matching topic, subscription.client = client →
      ¬ Qos.atMostOnce < min qos subscription.granted) →
    outcome.broker.registry.get? client = broker.registry.get? client
  leavesTokens : outcome.broker.registry.nextToken = broker.registry.nextToken
  leavesSubscriptions : outcome.broker.subscriptions = broker.subscriptions
  leavesSettings : outcome.broker.settings = broker.settings
  leavesRetained : (retain && broker.settings.retainAvailable) = false →
    outcome.broker.retained = broker.retained
  /-- If the message is to be retained, its topic retains it or is cleared, and no other topic is
  concerned. -/
  retains : (retain && broker.settings.retainAvailable) = true →
    ∀ other, outcome.broker.retained.get? other =
      if other = topic then if payload.isEmpty then none else some ⟨payload, qos⟩
      else broker.retained.get? other

section Exact

variable {broker : Broker} {topic : String} {payload : Payload} {qos : Qos} {retain : Bool}

theorem awaited_eq_nil (client : String)
    (weak : ∀ subscription ∈ broker.matching topic, subscription.client = client →
      ¬ Qos.atMostOnce < min qos subscription.granted) :
    awaited broker.subscriptions client topic payload qos = [] := by
  unfold awaited
  rw [List.filter_eq_nil_iff]
  intro message member
  obtain ⟨subscription, found, rfl⟩ := List.mem_map.mp member
  obtain ⟨live, same, applies⟩ := Subscriptions.mem_found.mp found
  have lost := weak subscription (List.mem_filter.mpr ⟨live, applies⟩) same
  exact fun kept => lost (of_decide_eq_true kept)

theorem await_eq {capacity maxLevels : Nat} {client : String} {session : Session}
    (sound : session.Sound capacity maxLevels client) (messages : List Publish) :
    session.await messages =
      if session.link.isSome then session
      else { session with backlog := { session.backlog with
        messages := (session.backlog.messages ++ messages).rtake capacity } } := by
  unfold Session.await
  rw [Backlog.pushAll_eq sound.fits, ← sound.capacity]
  rfl

theorem Publishes.exactly (consistent : broker.Consistent) {after : Broker}
    {deliveries : List Delivery}
    (publishes : broker.Publishes topic payload qos retain after deliveries) :
    broker.PublishesExactly topic payload qos retain (after.accept () deliveries) where
  succeeds := rfl
  handsOver := by
    have plain := plainLevels_of_valid publishes.valid
    change deliveries.Perm _
    simp only [publishes.deliveries, Registry.map_connection?]
    exact (Subscriptions.hits_perm consistent.subscriptions plain).filterMap _
  inOrder := by
    have plain := plainLevels_of_valid publishes.valid
    refine ⟨(broker.subscriptions.hits topic).map fun subscription =>
      (subscription.client, subscription.granted), ?_, fun client => ?_⟩
    · rw [Subscriptions.recipients_eq, consistent.filterLevels, publishes.valid]
    · rw [List.filter_map, ← Subscriptions.filter_hits consistent.subscriptions plain]
      rfl
  waits client := by
    refine (publishes.sessions client).trans (Option.map_congr fun session found => ?_)
    exact await_eq (consistent.sessions client session found) _
  leavesOthers client unconcerned := by
    apply (publishes.sessions client).trans
    cases found : broker.registry.get? client with
    | none => rfl
    | some session =>
        rw [Option.map_some]
        apply congrArg some
        rcases unconcerned with notAway | weak
        · refine Session.await_of_isActive ?_ _
          by_contra away
          have kept := Registry.hasPersisted_iff.mpr
            ⟨session, found, by simpa [Session.isActive] using away⟩
          rw [notAway] at kept
          cases kept
        · rw [awaited_eq_nil client weak, Session.await_nil]
  leavesTokens := publishes.nextToken
  leavesSubscriptions := publishes.subscriptions
  leavesSettings := publishes.settings
  leavesRetained notAsked := by
    have retained := publishes.retained
    rwa [notAsked] at retained
  retains asked other := by
    have retained := publishes.retained
    rw [if_pos asked] at retained
    exact Retained.get?_retain retained other

/-- Publishing to a valid topic succeeds in every state that can be reached, with exactly this
outcome. -/
theorem publish_exact (reachable : broker.Reachable)
    (valid : checkName broker.settings.maxTopicLevels topic = .ok ()) (payload : Payload)
    (qos : Qos) (retain : Bool) :
    broker.PublishesExactly topic payload qos retain
      (broker.publish topic payload qos retain) := by
  have consistent := consistent_of_reachable reachable
  rw [checkName_eq_ok_iff] at valid
  rcases settles_publish consistent topic payload qos retain with
    ⟨error, _, fault, faulty, _⟩ | ⟨_, after, deliveries, accepted, publishes⟩
  · rw [valid] at faulty
    cases faulty
  · rw [accepted]
    exact publishes.exactly consistent

/-- One client is here, another one is away, and both have subscriptions that match. -/
theorem publish_exact_here_and_away :
    let broker := (start default).run [.createSession "ann" ⟨0⟩,
      .subscribe "a/+" "ann" .exactlyOnce, .createSession "bob" ⟨1⟩,
      .subscribe "#" "bob" .atLeastOnce, .subscribe "a/b" "bob" .exactlyOnce, .suspendSession "bob"]
    checkName broker.settings.maxTopicLevels "a/b" = .ok () ∧
      broker.PublishesExactly "a/b" [1] .exactlyOnce true
        (broker.publish "a/b" [1] .exactlyOnce true) := by
  refine ⟨?valid, publish_exact ⟨default, _, rfl⟩ ?valid [1] .exactlyOnce true⟩
  decide +kernel

end Exact

end TopicBroker.Broker

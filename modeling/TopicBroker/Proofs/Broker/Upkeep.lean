import TopicBroker.Proofs.Broker.Causes

/-!
# Orderly brokers

Subscriptions, retained messages and sessions are kept in different places, and
only the operations keep them in step.  In every broker that a history leads
to, subscriptions belong to clients with a session, what is stored has passed
the checks under the limits of the settings, and whatever waits could have been
published just now.  For the messages that wait this follows from what has
caused them, and for the granted guarantees from how subscriptions are made.
-/

namespace TopicBroker

/-- A message as it may wait for a client. -/
structure Publish.Waitable (settings : BrokerSettings) (message : Publish) : Prop where
  survives : message.qos = .atLeastOnce ∨ message.qos = .exactlyOnce
  granted : message.qos ≤ settings.maxQos
  notRetained : message.retain = false
  notDuplicate : message.duplicate = false
  topic : checkName settings.maxTopicLevels message.topic = .ok ()

/-- A session as the broker may keep it. -/
structure Session.Orderly (settings : BrokerSettings) (session : Session) : Prop where
  nothingWaits : session.isActive = true → session.backlog.messages = []
  room : session.backlog.messages.length ≤ settings.maxQueuedMessages
  waiting : ∀ message ∈ session.backlog.messages, message.Waitable settings
  will : ∀ will, session.will = some will →
    checkName settings.maxTopicLevels will.topic = .ok ()

namespace Broker

/-- What is stored in different places goes together and is within the limits. -/
structure Orderly (broker : Broker) : Prop where
  owners : ∀ subscription ∈ broker.subscriptions.live,
    broker.registry.hasActive subscription.client = true ∨
      broker.registry.hasPersisted subscription.client = true
  filters : ∀ subscription ∈ broker.subscriptions.live,
    checkFilter broker.settings.maxTopicLevels subscription.filter = .ok ()
  granted : ∀ subscription ∈ broker.subscriptions.live,
    subscription.granted ≤ broker.settings.maxQos
  retained : ∀ topic message, (topic, message) ∈ broker.retained.held →
    checkName broker.settings.maxTopicLevels topic = .ok () ∧ message.payload ≠ []
  sessions : ∀ client session, broker.registry.get? client = some session →
    session.Orderly broker.settings

variable {broker : Broker}

theorem granted_of_makes (consistent : broker.Consistent) {subscription : Subscription}
    {operation : Operation} (makes : broker.Makes subscription operation) :
    subscription.granted ≤ broker.settings.maxQos := by
  obtain ⟨reply, after, deliveries, _, effect, made⟩ := effect_of_does consistent makes
  cases effect with
  | subscribes found accepted =>
      obtain ⟨_, rfl, _⟩ := Subscriptions.revises_subscribe accepted
      rw [← made, ← consistent.maxQos]
      exact Qos.min_le_right ..
  | _ => exact made.elim

theorem valid_of_publicizes (consistent : broker.Consistent) {topic : String} {payload : Payload}
    {qos : Qos} {operation : Operation}
    (publicizes : broker.Publicizes topic payload qos operation) :
    nameFault? broker.settings.maxTopicLevels topic = none := by
  obtain ⟨reply, after, deliveries, _, effect, published⟩ := effect_of_does consistent publicizes
  cases effect with
  | publishes publishes =>
      obtain ⟨rfl, _⟩ := published
      exact publishes.valid
  | releases current found silent =>
      obtain ⟨will, left, _⟩ := published
      rw [found, Option.bind_some, silent] at left
      cases left
  | releasesWithWill current found leaves publishes =>
      obtain ⟨will, left, rfl, _⟩ := published
      rw [found, Option.bind_some, leaves] at left
      obtain rfl := Option.some.inj left
      rw [← settings_tornDown]
      exact publishes.valid
  | _ => exact published.elim

section Run

variable (settings : BrokerSettings) (history : List Operation)

theorem granted_run {filter client : String} {granted : Qos}
    (live : ((start settings).run history).subscriptions.granted? filter client = some granted) :
    granted ≤ settings.maxQos := by
  obtain ⟨earlier, making, later, _, makes, _⟩ :=
    (granted?_run settings history ⟨filter, client, granted⟩).mp live
  have reached := (consistent_start settings).run earlier
  have within := granted_of_makes reached.consistent makes
  rw [reached.settings] at within
  exact within

theorem waitable_of_waiting {client : String} {message : Publish}
    (waits : message ∈ ((start settings).run history).registry.waiting client) :
    message.Waitable settings := by
  obtain ⟨⟨earlier, publication, later, _, ⟨subscription, _, inPlace, routes⟩, _⟩, survives⟩ :=
    queued_of_waiting settings history waits
  obtain ⟨topic, payload, qos, publicizes, _, rfl⟩ := routes
  have within := granted_run settings _ ((granted?_run_iff_inPlace settings _ _).mpr inPlace)
  have reached := (consistent_start settings).run earlier
  have valid := valid_of_publicizes reached.consistent publicizes
  rw [reached.settings] at valid
  refine ⟨?_, Nat.le_trans (Qos.min_le_right ..) within, rfl, rfl, checkName_eq_ok_iff.mpr valid⟩
  revert survives
  cases (messageFor topic payload qos subscription.granted).qos <;> decide

/-- Every history leads to a broker in order. -/
theorem orderly_run : ((start settings).run history).Orderly := by
  have reached := (consistent_start settings).run history
  have sound := sound_retained_run settings history
  have consistent := reached.consistent
  have live {subscription : Subscription}
      (member : subscription ∈ ((start settings).run history).subscriptions.live) :
      ((start settings).run history).subscriptions.granted? subscription.filter
        subscription.client = some subscription.granted :=
    (Subscriptions.mem_live consistent.subscriptions).mp member
  refine ⟨fun subscription member => ?_, fun subscription member => ?_,
    fun subscription member => ?_, fun topic message kept => ?_, fun client session found => ?_⟩
  · have owned := (owned_start settings).run (consistent_start settings) history
    obtain ⟨session, found⟩ := Option.isSome_iff_exists.mp (owned _ _ _ (live member))
    exact Registry.hasActive_or_hasPersisted found
  · rw [checkFilter_eq_ok_iff, ← consistent.filterLevels]
    exact consistent.subscriptions.valid_of_granted (live member)
  · rw [reached.settings]
    exact granted_run settings history (live member)
  · obtain ⟨occupied, valid⟩ := sound.of_get? ((Retained.mem_held sound).mp kept)
    rw [consistent.retainedLevels] at valid
    exact ⟨checkName_eq_ok_iff.mpr valid, occupied⟩
  · have kept := consistent.sessions client session found
    refine ⟨kept.nothingWaits, kept.capacity ▸ kept.fits, fun message waits => ?_,
      fun will left => checkName_eq_ok_iff.mpr (kept.will will left)⟩
    rw [reached.settings]
    rw [← Registry.waiting_of_get? found] at waits
    exact waitable_of_waiting settings history waits

end Run

end Broker

end TopicBroker

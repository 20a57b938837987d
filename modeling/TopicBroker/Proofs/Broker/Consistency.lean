import TopicBroker.Broker.Operation
import TopicBroker.Proofs.Session.Registry
import TopicBroker.Proofs.Topic.LiveSubscriptions
import TopicBroker.Proofs.Topic.RetainedMessages

/-!
# Consistent brokers

The parts of a broker are set up with the same limits, and each part keeps what
the others rely on: subscriptions are made to valid filters, and sessions are
sound, in particular with wills on valid topics.  So no operation finds out in
the middle that it cannot go on.  `Outcome.Settles` says this of one outcome:
the operation is refused before anything has changed, or it is accepted.
-/

namespace TopicBroker

namespace Outcome

variable {α β : Type}

/-- The operation is refused for such a reason and leaves the broker as it was, or it is accepted
with such an effect. -/
def Settles (outcome : Outcome α) (broker : Broker) (Refused : BrokerError → Prop)
    (Accepted : α → Broker → List Delivery → Prop) : Prop :=
  (∃ error, outcome = broker.refuse error ∧ Refused error) ∨
    ∃ answer after deliveries, outcome = after.accept answer deliveries ∧
      Accepted answer after deliveries

variable {outcome : Outcome α} {broker : Broker} {Refused : BrokerError → Prop}
  {Accepted : α → Broker → List Delivery → Prop}

theorem settles_refuse {error : BrokerError} (reason : Refused error) :
    (broker.refuse error : Outcome α).Settles broker Refused Accepted :=
  Or.inl ⟨error, rfl, reason⟩

theorem settles_accept {answer : α} {after : Broker} {deliveries : List Delivery}
    (effect : Accepted answer after deliveries) :
    (after.accept answer deliveries).Settles broker Refused Accepted :=
  Or.inr ⟨answer, after, deliveries, rfl, effect⟩

theorem Settles.mono {MayRefuse : BrokerError → Prop} {MayAccept : α → Broker → List Delivery → Prop}
    (settles : outcome.Settles broker Refused Accepted)
    (refused : ∀ error, Refused error → MayRefuse error)
    (accepted : ∀ answer after deliveries, Accepted answer after deliveries →
      MayAccept answer after deliveries) :
    outcome.Settles broker MayRefuse MayAccept := by
  rcases settles with ⟨error, rfl, reason⟩ | ⟨answer, after, deliveries, rfl, effect⟩
  · exact settles_refuse (refused error reason)
  · exact settles_accept (accepted answer after deliveries effect)

theorem Settles.map {Answered : β → Broker → List Delivery → Prop} (change : α → β)
    (settles : outcome.Settles broker Refused Accepted)
    (answered : ∀ answer after deliveries, Accepted answer after deliveries →
      Answered (change answer) after deliveries) :
    (outcome.map change).Settles broker Refused Answered := by
  rcases settles with ⟨error, rfl, reason⟩ | ⟨answer, after, deliveries, rfl, effect⟩
  · exact settles_refuse reason
  · exact settles_accept (answered answer after deliveries effect)

/-- What is refused has changed nothing and hands nothing over. -/
theorem Settles.of_error (settles : outcome.Settles broker Refused Accepted) {error : BrokerError}
    (failed : outcome.result = .error error) :
    outcome.broker = broker ∧ outcome.deliveries = [] ∧ Refused error := by
  rcases settles with ⟨other, rfl, reason⟩ | ⟨answer, after, deliveries, rfl, _⟩
  · cases failed
    exact ⟨rfl, rfl, reason⟩
  · cases failed

theorem andThen_accept {after last : Broker} {answer : α} {reply : β}
    {deliveries further : List Delivery} {next : α → Broker → Outcome β}
    (goesOn : next answer after = last.accept reply further) :
    (after.accept answer deliveries).andThen next = last.accept reply (deliveries ++ further) := by
  simp [andThen, Broker.accept, goesOn]

end Outcome

/-- The parts of the broker share the limits of its settings, and what they hold is sound. -/
structure Broker.Consistent (broker : Broker) : Prop where
  maxQos : broker.subscriptions.maxQos = broker.settings.maxQos
  filterLevels : broker.subscriptions.maxLevels = broker.settings.maxTopicLevels
  retainedLevels : broker.retained.maxLevels = broker.settings.maxTopicLevels
  capacity : broker.registry.capacity = broker.settings.maxQueuedMessages
  subscriptions : broker.subscriptions.Sound
  sessions : ∀ client session, broker.registry.get? client = some session →
    session.Sound broker.settings.maxQueuedMessages broker.settings.maxTopicLevels client

namespace Broker

/-- The broker that an operation leaves behind is consistent and has the same settings. -/
structure Continues (broker after : Broker) : Prop where
  consistent : after.Consistent
  settings : after.settings = broker.settings

variable {broker : Broker}

theorem consistent_start (settings : BrokerSettings) : (start settings).Consistent where
  maxQos := rfl
  filterLevels := rfl
  retainedLevels := rfl
  capacity := rfl
  subscriptions := Subscriptions.sound_empty _ _
  sessions client session found := by
    rw [start, Registry.get?_empty] at found
    cases found

namespace Consistent

/-- The filters that clients are subscribed to can be used to select retained messages. -/
theorem valid_of_mem_filtersOf (consistent : broker.Consistent) {client filter : String}
    {granted : Qos} (member : (filter, granted) ∈ broker.subscriptions.filtersOf client) :
    filterFault? broker.retained.maxLevels filter = none := by
  have live := (Subscriptions.mem_live consistent.subscriptions).mp
    (Subscriptions.mem_filtersOf.mp member)
  have valid := consistent.subscriptions.valid_of_granted live
  rwa [consistent.filterLevels, ← consistent.retainedLevels] at valid

theorem continues {α : Type} {outcome : Outcome α} {Refused : BrokerError → Prop}
    {Accepted : α → Broker → List Delivery → Prop} (consistent : broker.Consistent)
    (settles : outcome.Settles broker Refused Accepted)
    (keeps : ∀ answer after deliveries, Accepted answer after deliveries →
      broker.Continues after) : broker.Continues outcome.broker := by
  rcases settles with ⟨error, rfl, _⟩ | ⟨answer, after, deliveries, rfl, effect⟩
  · exact ⟨consistent, rfl⟩
  · exact keeps answer after deliveries effect

theorem withSubscriptions (consistent : broker.Consistent) {subscriptions : Subscriptions}
    (sameQos : subscriptions.maxQos = broker.subscriptions.maxQos)
    (sameLevels : subscriptions.maxLevels = broker.subscriptions.maxLevels)
    (sound : subscriptions.Sound) : ({ broker with subscriptions } : Broker).Consistent where
  maxQos := sameQos.trans consistent.maxQos
  filterLevels := sameLevels.trans consistent.filterLevels
  retainedLevels := consistent.retainedLevels
  capacity := consistent.capacity
  subscriptions := sound
  sessions := consistent.sessions

theorem withRetained (consistent : broker.Consistent) {retained : Retained}
    (sameLevels : retained.maxLevels = broker.retained.maxLevels) :
    ({ broker with retained } : Broker).Consistent where
  maxQos := consistent.maxQos
  filterLevels := consistent.filterLevels
  retainedLevels := sameLevels.trans consistent.retainedLevels
  capacity := consistent.capacity
  subscriptions := consistent.subscriptions
  sessions := consistent.sessions

theorem withRegistry (consistent : broker.Consistent) {registry : Registry}
    (sameCapacity : registry.capacity = broker.registry.capacity)
    (sound : ∀ client session, registry.get? client = some session →
      session.Sound broker.settings.maxQueuedMessages broker.settings.maxTopicLevels client) :
    ({ broker with registry } : Broker).Consistent where
  maxQos := consistent.maxQos
  filterLevels := consistent.filterLevels
  retainedLevels := consistent.retainedLevels
  capacity := sameCapacity.trans consistent.capacity
  subscriptions := consistent.subscriptions
  sessions := sound

theorem put (consistent : broker.Consistent) {registry : Registry} {client : String}
    {session : Session}
    (sameCapacity : registry.capacity = broker.registry.capacity)
    (sameSessions : ∀ other, registry.get? other = broker.registry.get? other)
    (sound : session.Sound broker.settings.maxQueuedMessages broker.settings.maxTopicLevels
      client) :
    ({ broker with registry := registry.put client session } : Broker).Consistent := by
  refine consistent.withRegistry sameCapacity fun other found present => ?_
  rw [Registry.get?_put] at present
  split at present
  case isTrue same =>
    cases present
    exact same ▸ sound
  case isFalse => exact consistent.sessions other found (sameSessions other ▸ present)

theorem erase (consistent : broker.Consistent) (client : String) :
    ({ broker with registry := broker.registry.erase client } : Broker).Consistent := by
  refine consistent.withRegistry rfl fun other found present => ?_
  rw [Registry.get?_erase] at present
  split at present
  case isTrue => cases present
  case isFalse => exact consistent.sessions other found present

theorem unsubscribeAll (consistent : broker.Consistent) (client : String) :
    ({ broker with subscriptions := (broker.subscriptions.unsubscribeAll client).1 } :
      Broker).Consistent :=
  have revises := Subscriptions.revises_unsubscribeAll broker.subscriptions client
  consistent.withSubscriptions revises.maxQos revises.maxLevels
    (consistent.subscriptions.unsubscribeAll client)

end Consistent

end Broker

end TopicBroker

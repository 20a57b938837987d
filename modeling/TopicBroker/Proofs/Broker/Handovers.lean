import TopicBroker.Proofs.Broker.Upkeep

/-!
# What is handed over is well formed

A message reaches a connection when it is published, when it is replayed from
the retained messages, or when it has waited for its client.  Neither published
nor retained messages are weakened on entry.  Still none is handed over with a
stronger guarantee than the settings allow, since every way takes the weaker of
the message's guarantee and one that has been granted.  The flag of a retained
message tells the ways apart: it is set on replays and on nothing else.
-/

namespace TopicBroker

/-- A message as it may be handed over: sent for the first time, within the strongest guarantee, and
on a topic name within the limit on levels. -/
structure Publish.WellFormed (settings : BrokerSettings) (message : Publish) : Prop where
  notDuplicate : message.duplicate = false
  granted : message.qos ≤ settings.maxQos
  validTopic : checkName settings.maxTopicLevels message.topic = .ok ()
  nonempty : message.topic ≠ ""
  noNull : '\x00' ∉ message.topic.toList
  noWildcard : '+' ∉ message.topic.toList ∧ '#' ∉ message.topic.toList
  fewLevels : settings.maxTopicLevels = 0 ∨
    (levelsOf message.topic).length ≤ settings.maxTopicLevels

theorem Publish.wellFormed {settings : BrokerSettings} {message : Publish}
    (notDuplicate : message.duplicate = false) (granted : message.qos ≤ settings.maxQos)
    (valid : nameFault? settings.maxTopicLevels message.topic = none) :
    message.WellFormed settings := by
  obtain ⟨nonempty, _, noNull, noSingle, noMulti, fewLevels⟩ := nameFault?_eq_none_iff.mp valid
  exact ⟨notDuplicate, granted, checkName_eq_ok_iff.mpr valid, nonempty, noNull,
    ⟨noSingle, noMulti⟩, fewLevels⟩

theorem Publish.Waitable.wellFormed {settings : BrokerSettings} {message : Publish}
    (waitable : message.Waitable settings) : message.WellFormed settings :=
  Publish.wellFormed waitable.notDuplicate waitable.granted (checkName_eq_ok_iff.mp waitable.topic)

namespace Broker

/-- The operation publishes the message to some subscription. -/
def SendsLive (message : Publish) (broker : Broker) (operation : Operation) : Prop :=
  ∃ subscription : Subscription, broker.Routes subscription message operation

/-- The operation calls a client back for which the message waits. -/
def SendsWaiting (message : Publish) (broker : Broker) (operation : Operation) : Prop :=
  ∃ client, broker.Recalls client operation ∧ message ∈ broker.registry.waiting client

/-- The operation replays the message from the retained ones. -/
def SendsReplay (message : Publish) (broker : Broker) (operation : Operation) : Prop :=
  ∃ subscription : Subscription, broker.Replays subscription message operation

/-- A message may be handed over by this operation, and its flag tells in which way it comes. -/
structure HandsOver (settings : BrokerSettings) (broker : Broker) (operation : Operation)
    (message : Publish) : Prop where
  wellFormed : message.WellFormed settings
  firsthand : message.retain = false ↔
    broker.SendsLive message operation ∨ broker.SendsWaiting message operation
  replayed : message.retain = true ↔ broker.SendsReplay message operation
  occupied : message.retain = true → settings.retainAvailable = true ∧ message.payload ≠ []

variable {broker : Broker} {operation : Operation} {message : Publish}

theorem retain_of_sendsLive (live : broker.SendsLive message operation) :
    message.retain = false := by
  obtain ⟨_, _, _, _, _, _, rfl⟩ := live
  rfl

theorem retain_of_sendsReplay (replay : broker.SendsReplay message operation) :
    message.retain = true := by
  obtain ⟨_, _, _, _, _, _, rfl⟩ := replay
  rfl

section Run

variable (settings : BrokerSettings) (history : List Operation)

/-- Where nothing may be retained, nothing is. -/
theorem retained_run_of_unavailable (unavailable : settings.retainAvailable = false) :
    ((start settings).run history).retained = .empty settings.maxTopicLevels := by
  induction history using List.reverseRecOn with
  | nil => rfl
  | append_singleton earlier operation ih =>
      have reached := (consistent_start settings).run earlier
      rw [run_append_singleton]
      rcases settles_effect reached.consistent operation with
        ⟨error, refused, _⟩ | ⟨reply, after, deliveries, accepted, effect⟩
      · rw [refused]
        exact ih
      · have still : ((start settings).run earlier).settings.retainAvailable = false := by
          rw [reached.settings]
          exact unavailable
        have same : after.retained = ((start settings).run earlier).retained := by
          simpa [still, Retained.Takes] using effect.takes
        rw [accepted]
        exact same.trans ih

theorem retain_of_sendsWaiting
    (waiting : ((start settings).run history).SendsWaiting message operation) :
    message.retain = false := by
  obtain ⟨client, _, waits⟩ := waiting
  exact (waitable_of_waiting settings history waits).notRetained

theorem wellFormed_of_routes {subscription : Subscription}
    (within : subscription.granted ≤ settings.maxQos)
    (routes : ((start settings).run history).Routes subscription message operation) :
    message.WellFormed settings := by
  obtain ⟨topic, payload, qos, publicizes, _, rfl⟩ := routes
  have reached := (consistent_start settings).run history
  have valid := valid_of_publicizes reached.consistent publicizes
  rw [reached.settings] at valid
  exact Publish.wellFormed rfl (Nat.le_trans (Qos.min_le_right ..) within) valid

theorem wellFormed_of_replays {subscription : Subscription}
    (within : subscription.granted ≤ settings.maxQos)
    (replays : ((start settings).run history).Replays subscription message operation) :
    message.WellFormed settings ∧ settings.retainAvailable = true ∧ message.payload ≠ [] := by
  obtain ⟨_, topic, stored, kept, _, rfl⟩ := replays
  have reached := (consistent_start settings).run history
  obtain ⟨occupied, valid⟩ := (sound_retained_run settings history).of_get? kept
  rw [reached.consistent.retainedLevels, reached.settings] at valid
  refine ⟨Publish.wellFormed rfl (Nat.le_trans (Qos.min_le_right ..) within) valid, ?_, occupied⟩
  by_contra unavailable
  rw [retained_run_of_unavailable settings history (by simpa using unavailable),
    Retained.get?_empty] at kept
  cases kept

variable {settings history}

theorem handsOver_of_firsthand
    (firsthand : ((start settings).run history).SendsLive message operation ∨
      ((start settings).run history).SendsWaiting message operation)
    (wellFormed : message.WellFormed settings) :
    HandsOver settings ((start settings).run history) operation message := by
  have fresh : message.retain = false :=
    firsthand.elim retain_of_sendsLive (retain_of_sendsWaiting settings history)
  have notRetained : ¬ message.retain = true := by simp [fresh]
  exact ⟨wellFormed, iff_of_true fresh firsthand,
    iff_of_false notRetained fun replay => notRetained (retain_of_sendsReplay replay),
    fun retained => (notRetained retained).elim⟩

theorem handsOver_of_replay
    (replay : ((start settings).run history).SendsReplay message operation)
    (wellFormed : message.WellFormed settings)
    (occupied : settings.retainAvailable = true ∧ message.payload ≠ []) :
    HandsOver settings ((start settings).run history) operation message := by
  have retained := retain_of_sendsReplay replay
  have notFresh : ¬ message.retain = false := by simp [retained]
  exact ⟨wellFormed,
    iff_of_false notFresh fun firsthand =>
      notFresh (firsthand.elim retain_of_sendsLive (retain_of_sendsWaiting settings history)),
    iff_of_true retained replay, fun _ => occupied⟩

variable (settings history)

/-- From whatever history and whatever settings, all that is handed over is well formed, and its
flag tells whether it was published or retained.  What still waits is no different. -/
theorem handsOver_run :
    (∀ operation, ∀ delivery ∈ (((start settings).run history).perform operation).deliveries,
      HandsOver settings ((start settings).run history) operation delivery.message) ∧
    ∀ client, ∀ message ∈ ((start settings).run history).registry.waiting client,
      message.retain = false ∧ message.WellFormed settings := by
  refine ⟨fun operation delivery handed => ?_, fun client message waits => ?_⟩
  · have consistent := ((consistent_start settings).run history).consistent
    obtain ⟨client, _, ⟨subscription, rfl, live, sent⟩ | ⟨recalls, waits⟩⟩ :=
      handed_next consistent (sound_retained_run settings history) handed
    · rw [run_next] at live
      have within := granted_run settings _ live
      rcases sent with routes | replays
      · exact handsOver_of_firsthand (Or.inl ⟨subscription, routes⟩)
          (wellFormed_of_routes settings history within routes)
      · obtain ⟨wellFormed, occupied⟩ := wellFormed_of_replays settings history within replays
        exact handsOver_of_replay ⟨subscription, replays⟩ wellFormed occupied
    · exact handsOver_of_firsthand (Or.inr ⟨client, recalls, waits⟩)
        (waitable_of_waiting settings history waits).wellFormed
  · have waitable := waitable_of_waiting settings history waits
    exact ⟨waitable.notRetained, waitable.wellFormed⟩

end Run

/-- The settings grant less than was asked for, published and stored.  A client comes back to a
retained message and to one that has waited, and then the will of another client follows. -/
theorem handsOver_of_weakened_messages :
    let settings : BrokerSettings := ⟨.atLeastOnce, true, 2, 5, 4⟩
    let history : List Operation :=
      [.connect ⟨"bob", true, some ⟨"a/d", [3], .exactlyOnce, true⟩⟩ ⟨0⟩ "",
        .retain "a/b" [1] .exactlyOnce, .createSession "ann" ⟨1⟩,
        .subscribe "a/+" "ann" .exactlyOnce, .suspendSession "ann",
        .publish "a/c" [2] .exactlyOnce false]
    let comeback : Operation := .resumeSession "ann" ⟨2⟩
    let loss : Operation := .release "bob" ⟨1⟩ .connectionLost
    let away := (start settings).run history
    let here := (start settings).run (history ++ [comeback])
    away.registry.waiting "ann" = [.first "a/c" [2] .atLeastOnce false] ∧
      (Publish.first "a/c" [2] .atLeastOnce false).WellFormed settings ∧
    (away.perform comeback).deliveries = [⟨⟨2⟩, .first "a/b" [1] .atLeastOnce true⟩,
        ⟨⟨2⟩, .first "a/c" [2] .atLeastOnce false⟩] ∧
      HandsOver settings away comeback (.first "a/b" [1] .atLeastOnce true) ∧
      HandsOver settings away comeback (.first "a/c" [2] .atLeastOnce false) ∧
    (here.perform loss).deliveries = [⟨⟨2⟩, .first "a/d" [3] .atLeastOnce false⟩] ∧
      HandsOver settings here loss (.first "a/d" [3] .atLeastOnce false) := by
  intro settings history comeback loss away here
  have waits : away.registry.waiting "ann" = [.first "a/c" [2] .atLeastOnce false] := by
    decide +kernel
  have returned : (away.perform comeback).deliveries =
      [⟨⟨2⟩, .first "a/b" [1] .atLeastOnce true⟩, ⟨⟨2⟩, .first "a/c" [2] .atLeastOnce false⟩] := by
    decide +kernel
  have lost : (here.perform loss).deliveries = [⟨⟨2⟩, .first "a/d" [3] .atLeastOnce false⟩] := by
    decide +kernel
  obtain ⟨whileAway, queued⟩ := handsOver_run settings history
  obtain ⟨whileHere, _⟩ := handsOver_run settings (history ++ [comeback])
  exact ⟨waits, (queued "ann" _ (waits ▸ List.mem_singleton_self _)).2, returned,
    whileAway comeback ⟨⟨2⟩, .first "a/b" [1] .atLeastOnce true⟩ (returned ▸ by simp),
    whileAway comeback ⟨⟨2⟩, .first "a/c" [2] .atLeastOnce false⟩ (returned ▸ by simp), lost,
    whileHere loss ⟨⟨2⟩, .first "a/d" [3] .atLeastOnce false⟩ (lost ▸ by simp)⟩

end Broker

end TopicBroker

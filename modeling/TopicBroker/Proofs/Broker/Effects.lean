import TopicBroker.Proofs.Broker.Sessions

/-!
# The effect of an operation

An operation that is not refused has one of a few effects: one for each kind of
operation, and three for the release of a session, which may come too late,
leave no will, or leave a will that is published.  `Effect` lists them with the
answer, the broker afterwards and what is handed over.  What later theorems say
about every operation is said about every effect.

Most effects concern the session of one client, and `Leaves` says what they
leave of it.  Any other session stays as it is, except that messages may come to
wait in it.
-/

namespace TopicBroker.Broker

/-- What an operation that is not refused answers, what it makes of the broker, and what it hands
over. -/
inductive Effect (broker : Broker) : Operation → Reply → Broker → List Delivery → Prop
  | subscribes {filter client : String} {qos granted : Qos} {session : Session}
      {subscriptions : Subscriptions} (found : broker.registry.get? client = some session)
      (accepted : broker.subscriptions.subscribe filter client qos = .ok (subscriptions, granted)) :
      broker.Effect (.subscribe filter client qos) (.granted granted) { broker with subscriptions }
        ((session.connection?.map
          (({ broker with subscriptions } : Broker).replayed filter granted)).getD [])
  | unsubscribes {filter client : String} {removed : Bool} {subscriptions : Subscriptions}
      (accepted : broker.subscriptions.unsubscribe filter client = .ok (subscriptions, removed)) :
      broker.Effect (.unsubscribe filter client) (.flag removed) { broker with subscriptions } []
  | unsubscribesAll (client : String) :
      broker.Effect (.unsubscribeAll client)
        (.removed (broker.subscriptions.unsubscribeAll client).2)
        { broker with subscriptions := (broker.subscriptions.unsubscribeAll client).1 } []
  | publishes {topic : String} {payload : Payload} {qos : Qos} {retain : Bool} {after : Broker}
      {deliveries : List Delivery}
      (publishes : broker.Publishes topic payload qos retain after deliveries) :
      broker.Effect (.publish topic payload qos retain) .done after deliveries
  | retains {topic : String} {payload : Payload} {qos : Qos} {retained : Retained}
      (kept : if broker.settings.retainAvailable then
          broker.retained.retain topic payload qos = .ok retained
        else retained = broker.retained) :
      broker.Effect (.retain topic payload qos) .done { broker with retained } []
  | creates {client : String} (notHere : broker.registry.hasActive client = false)
      (connection : ConnectionId) :
      broker.Effect (.createSession client connection) (.bound broker.registry.nextToken)
        (broker.withFresh client connection) []
  | resumes {client : String} {session : Session}
      (found : broker.registry.get? client = some session) (away : session.link = none)
      (connection : ConnectionId) :
      broker.Effect (.resumeSession client connection) (.bound broker.registry.nextToken)
        (broker.withBound client session connection)
        (broker.replayedTo client connection ++ session.backlog.messages.map (⟨connection, ·⟩))
  | suspends {client : String} {session : Session}
      (found : broker.registry.get? client = some session) :
      broker.Effect (.suspendSession client) .done (broker.withUnbound client session) []
  | removes {client : String} {session : Session}
      (found : broker.registry.get? client = some session) :
      broker.Effect (.removeSession client) .done (broker.without client) []
  | connects {request : ConnectRequest} {connection : ConnectionId} {generated client : String}
      {present : Bool} {bound : Broker} {deliveries : List Delivery}
      (effective : effectiveClient request generated = .ok client)
      (valid : ∀ will, request.will = some will →
        nameFault? broker.settings.maxTopicLevels will.topic = none)
      (resumed : present = (broker.registry.hasPersisted client && !request.clean))
      (binds : broker.Binds client connection present bound deliveries) :
      broker.Effect (.connect request connection generated)
        (.connected ⟨client, broker.registry.nextToken, present⟩)
        (bound.enterRequest client request) deliveries
  | releasesLate {client : String} {token : Token}
      (stale : broker.registry.isCurrent client token = false) (ending : Ending) :
      broker.Effect (.release client token ending) (.flag false) broker []
  | releases {client : String} {token : Token} {ending : Ending} {session : Session}
      (current : broker.registry.isCurrent client token = true)
      (found : broker.registry.get? client = some session)
      (silent : leftWill ending session = none) :
      broker.Effect (.release client token ending) (.flag true) (broker.tornDown client session) []
  | releasesWithWill {client : String} {token : Token} {ending : Ending} {session : Session}
      {will : Will} {after : Broker} {deliveries : List Delivery}
      (current : broker.registry.isCurrent client token = true)
      (found : broker.registry.get? client = some session)
      (left : leftWill ending session = some will)
      (publishes : (broker.tornDown client session).Publishes will.topic will.payload will.qos
        will.retain after deliveries) :
      broker.Effect (.release client token ending) (.flag true) after deliveries

variable {broker : Broker}

theorem settles_unsubscribeAll (broker : Broker) (client : String) :
    (broker.unsubscribeAll client).Settles broker (fun _ => False)
      (fun removed after deliveries =>
        removed = (broker.subscriptions.unsubscribeAll client).2 ∧
        after = { broker with
          subscriptions := (broker.subscriptions.unsubscribeAll client).1 } ∧
        deliveries = []) :=
  Outcome.settles_accept ⟨rfl, rfl, rfl⟩

/-- Every operation is refused and changes nothing, or it has its effect. -/
theorem settles_effect (consistent : broker.Consistent) (operation : Operation) :
    (broker.perform operation).Settles broker (fun _ => True) (broker.Effect operation) := by
  have lift {α : Type} {outcome : Outcome α} {Refused : BrokerError → Prop}
      {Accepted : α → Broker → List Delivery → Prop} {answer : α → Reply}
      (settles : outcome.Settles broker Refused Accepted)
      (effect : ∀ value after deliveries, Accepted value after deliveries →
        broker.Effect operation (answer value) after deliveries) :
      (outcome.map answer).Settles broker (fun _ => True) (broker.Effect operation) :=
    (settles.map answer effect).mono (fun _ _ => trivial) fun _ _ _ accepted => accepted
  cases operation with
  | subscribe filter client qos =>
      refine lift (settles_subscribe consistent filter client qos) ?_
      rintro granted _ _ ⟨session, subscriptions, found, accepted, rfl, rfl⟩
      exact .subscribes found accepted
  | unsubscribe filter client =>
      refine lift (settles_unsubscribe consistent filter client) ?_
      rintro removed _ _ ⟨subscriptions, accepted, rfl, rfl⟩
      exact .unsubscribes accepted
  | unsubscribeAll client =>
      refine lift (settles_unsubscribeAll broker client) ?_
      rintro removed _ _ ⟨rfl, rfl, rfl⟩
      exact .unsubscribesAll client
  | publish topic payload qos retain =>
      exact lift (settles_publish consistent topic payload qos retain)
        fun _ _ _ publishes => .publishes publishes
  | retain topic payload qos =>
      refine lift (settles_retain consistent topic payload qos) ?_
      rintro _ _ _ ⟨_, retained, rfl, rfl, kept⟩
      exact .retains kept
  | createSession client connection =>
      refine lift (settles_createSession broker client connection) ?_
      rintro _ _ _ ⟨notHere, rfl, rfl, rfl⟩
      exact .creates notHere connection
  | resumeSession client connection =>
      refine lift (settles_resumeSession client connection consistent) ?_
      rintro _ _ _ ⟨session, found, away, rfl, rfl, rfl⟩
      exact .resumes found away connection
  | suspendSession client =>
      refine lift (settles_suspendSession broker client) ?_
      rintro _ _ _ ⟨session, found, rfl, rfl⟩
      exact .suspends found
  | removeSession client =>
      refine lift (settles_removeSession broker client) ?_
      rintro _ _ _ ⟨session, found, rfl, rfl⟩
      exact .removes found
  | connect request connection generated =>
      refine lift (settles_connect request consistent connection generated) ?_
      rintro ⟨client, token, present⟩ _ _ ⟨bound, effective, valid, rfl, resumed, binds, rfl⟩
      exact .connects effective valid resumed binds
  | release client token ending =>
      refine lift (settles_release client consistent token ending) ?_
      rintro flag after deliveries ⟨rfl, effect⟩
      cases current : broker.registry.isCurrent client token with
      | false =>
          rw [current, if_neg (by decide)] at effect
          obtain ⟨rfl, rfl⟩ := effect
          exact .releasesLate current ending
      | true =>
          rw [current, if_pos rfl] at effect
          obtain ⟨session, found, effect⟩ := effect
          cases left : leftWill ending session with
          | none =>
              rw [left] at effect
              obtain ⟨rfl, rfl⟩ := effect
              exact .releases current found left
          | some will =>
              rw [left] at effect
              exact .releasesWithWill current found left effect

section Session

/-- The operation, with this answer, changes the session of the client otherwise than by messages
that wait. -/
def Concerns (client : String) : Operation → Reply → Prop
  | .createSession changed _, _ => changed = client
  | .resumeSession changed _, _ => changed = client
  | .suspendSession changed, _ => changed = client
  | .removeSession changed, _ => changed = client
  | .connect .., .connected reply => reply.client = client
  | .release released _ _, .flag true => released = client
  | _, _ => False

/-- What an operation leaves of the session of a client that it concerns. -/
inductive Leaves (broker : Broker) (client : String) : Operation → Reply → Option Session → Prop
  | created (connection : ConnectionId) :
      broker.Leaves client (.createSession client connection) (.bound broker.registry.nextToken)
        (some (.fresh client ⟨broker.registry.nextToken, connection⟩ broker.registry.capacity))
  | resumed {session : Session} (found : broker.registry.get? client = some session)
      (connection : ConnectionId) :
      broker.Leaves client (.resumeSession client connection) (.bound broker.registry.nextToken)
        (some (session.boundTo ⟨broker.registry.nextToken, connection⟩))
  | suspended {session : Session} (found : broker.registry.get? client = some session) :
      broker.Leaves client (.suspendSession client) .done (some { session with link := none })
  | removed : broker.Leaves client (.removeSession client) .done none
  | connected {request : ConnectRequest} {connection : ConnectionId} {generated : String}
      {present : Bool} {session : Session}
      (link : session.link = some ⟨broker.registry.nextToken, connection⟩)
      (will : session.will = request.will)
      (known : present = true → (broker.registry.get? client).isSome = true) :
      broker.Leaves client (.connect request connection generated)
        (.connected ⟨client, broker.registry.nextToken, present⟩) (some session)
  | ended {token : Token} {ending : Ending} {session : Session}
      (found : broker.registry.get? client = some session) (clean : session.clean = true) :
      broker.Leaves client (.release client token ending) (.flag true) none
  | released {token : Token} {ending : Ending} {session : Session}
      (found : broker.registry.get? client = some session) (notClean : session.clean = false)
      (messages : List Publish) :
      broker.Leaves client (.release client token ending) (.flag true)
        (some (({ session with will := none, link := none } : Session).await messages))

theorem leaves_of_release {client : String} {token : Token} {ending : Ending} {session : Session}
    (found : broker.registry.get? client = some session) (messages : List Publish) :
    broker.Leaves client (.release client token ending) (.flag true)
      (((broker.tornDown client session).registry.get? client).map (·.await messages)) := by
  rw [get?_tornDown, if_pos rfl]
  by_cases clean : session.clean = true
  · rw [if_pos clean]
    exact .ended found clean
  · rw [if_neg clean]
    exact .released found (by simpa using clean) messages

/-- Every client has the session that the operation leaves of it, or else the operation does not
concern it and at most lets messages wait. -/
theorem Effect.session {operation : Operation} {reply : Reply} {after : Broker}
    {deliveries : List Delivery} (effect : broker.Effect operation reply after deliveries)
    (client : String) :
    broker.Leaves client operation reply (after.registry.get? client) ∨
      (¬ Concerns client operation reply ∧ ∃ messages,
        after.registry.get? client =
          (broker.registry.get? client).map fun session => session.await messages) := by
  cases effect with
  | publishes publishes => exact Or.inr ⟨id, _, publishes.sessions client⟩
  | @creates created notHere connection =>
      rw [get?_withFresh]
      by_cases same : client = created
      · subst same
        rw [if_pos rfl]
        exact Or.inl (.created connection)
      · exact Or.inr ⟨Ne.symm same, [], by simp [same]⟩
  | @resumes resumed session found away connection =>
      rw [get?_withBound]
      by_cases same : client = resumed
      · subst same
        rw [if_pos rfl]
        exact Or.inl (.resumed found connection)
      · exact Or.inr ⟨Ne.symm same, [], by simp [same]⟩
  | @suspends suspended session found =>
      rw [get?_withUnbound]
      by_cases same : client = suspended
      · subst same
        rw [if_pos rfl]
        exact Or.inl (.suspended found)
      · exact Or.inr ⟨Ne.symm same, [], by simp [same]⟩
  | @removes removed session found =>
      rw [get?_without]
      by_cases same : client = removed
      · subst same
        rw [if_pos rfl]
        exact Or.inl .removed
      · exact Or.inr ⟨Ne.symm same, [], by simp [same]⟩
  | @connects request connection _ connecting present _ _ effective valid resumed binds =>
      obtain ⟨session, link, will, _, reads⟩ := get?_of_binds request binds
      rw [reads]
      by_cases same : client = connecting
      · subst same
        rw [if_pos rfl]
        refine Or.inl (.connected link will ?_)
        rintro rfl
        obtain ⟨kept, found, _⟩ := binds
        exact Option.isSome_of_eq_some found
      · exact Or.inr ⟨Ne.symm same, [], by simp [same]⟩
  | @releases released token ending session current found silent =>
      by_cases same : client = released
      · subst same
        simpa using Or.inl (leaves_of_release found [])
      · exact Or.inr ⟨Ne.symm same, [], by simp [get?_tornDown, same]⟩
  | @releasesWithWill released token ending session will _ _ current found left publishes =>
      rw [publishes.sessions]
      by_cases same : client = released
      · subst same
        exact Or.inl (leaves_of_release found _)
      · exact Or.inr ⟨Ne.symm same, _, by rw [get?_tornDown, if_neg same]⟩
  | _ => exact Or.inr ⟨id, [], by simp⟩

end Session

section Retained

theorem retained_enterRequest (client : String) (request : ConnectRequest) :
    (broker.enterRequest client request).retained = broker.retained := by
  unfold enterRequest
  split <;> rfl

theorem retained_tornDown (client : String) (session : Session) :
    (broker.tornDown client session).retained = broker.retained := by
  unfold tornDown
  split <;> rfl

theorem retained_of_binds {client : String} {connection : ConnectionId} {present : Bool}
    {bound : Broker} {deliveries : List Delivery}
    (binds : broker.Binds client connection present bound deliveries) :
    bound.retained = broker.retained := by
  cases present with
  | true =>
      obtain ⟨session, _, _, rfl, _⟩ := binds
      rfl
  | false =>
      obtain ⟨_, rfl, _⟩ := binds
      rfl

/-- What an operation with this answer asks a topic to retain, be it as the will of a client.  An
empty payload asks for the topic to be cleared. -/
def asksToRetain (broker : Broker) : Operation → Reply → Option (String × RetainedMessage)
  | .publish topic payload qos true, _ => some (topic, ⟨payload, qos⟩)
  | .retain topic payload qos, _ => some (topic, ⟨payload, qos⟩)
  | .release client _ ending, .flag true =>
    match (broker.registry.get? client).bind (leftWill ending) with
    | some ⟨topic, payload, qos, true⟩ => some (topic, ⟨payload, qos⟩)
    | _ => none
  | _, _ => none

theorem Publishes.takes {topic : String} {payload : Payload} {qos : Qos} {retain : Bool}
    {after : Broker} {deliveries : List Delivery}
    (publishes : broker.Publishes topic payload qos retain after deliveries) :
    broker.retained.Takes
      (if retain && broker.settings.retainAvailable then some (topic, ⟨payload, qos⟩) else none)
      after.retained := by
  have retained := publishes.retained
  split at retained
  case isTrue asked =>
    rw [if_pos asked]
    exact retained
  case isFalse silent =>
    rw [if_neg silent]
    exact retained

theorem takes_of_silent {operation : Operation} {reply : Reply} {after : Broker}
    (silent : broker.asksToRetain operation reply = none)
    (same : after.retained = broker.retained) :
    broker.retained.Takes
      (if broker.settings.retainAvailable then broker.asksToRetain operation reply else none)
      after.retained := by
  rw [silent, ite_self]
  exact same

/-- What topics retain changes only by what the operation asks for. -/
theorem Effect.takes {operation : Operation} {reply : Reply} {after : Broker}
    {deliveries : List Delivery} (effect : broker.Effect operation reply after deliveries) :
    broker.retained.Takes
      (if broker.settings.retainAvailable then broker.asksToRetain operation reply else none)
      after.retained := by
  cases effect with
  | @publishes topic payload qos retain _ _ publishes =>
      have takes := publishes.takes
      cases retain <;> simpa [asksToRetain] using takes
  | retains kept =>
      split at kept
      case isTrue available =>
        rw [if_pos available]
        exact kept
      case isFalse unavailable =>
        rw [if_neg unavailable]
        exact kept
  | connects effective valid resumed binds =>
      exact takes_of_silent rfl ((retained_enterRequest ..).trans (retained_of_binds binds))
  | releases current found silent =>
      exact takes_of_silent (by simp [asksToRetain, found, silent]) (retained_tornDown ..)
  | @releasesWithWill released token ending session will _ _ current found left publishes =>
      have takes := publishes.takes
      rw [retained_tornDown, settings_tornDown] at takes
      obtain ⟨topic, payload, qos, retain⟩ := will
      cases retain <;> simpa [asksToRetain, found, left] using takes
  | _ => exact takes_of_silent rfl rfl

end Retained

end TopicBroker.Broker

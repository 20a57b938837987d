import Mathlib.Data.List.Infix
import TopicBroker.Proofs.Broker.Histories

/-!
# While a client is away

What waits for a client that is away is decided by what is published meanwhile:
each operation offers it some messages, and the last of all messages offered
since the client left, as many as there is room for, wait for it.  One step
appends what the operation offers and forgets the oldest messages; the run law
follows by induction on the operations.  When the client comes back, exactly
these messages are handed to its new connection, after what is replayed from
the retained messages.
-/

namespace TopicBroker

/-- The operation brings a client back to the session that is kept for it. -/
def Operation.Resumes (client : String) (connection : ConnectionId) : Operation → Prop
  | .resumeSession resumed onto => resumed = client ∧ onto = connection
  | .connect request onto _ =>
    request.client = client ∧ request.clean = false ∧ onto = connection
  | _ => False

/-- The messages that are handed to a connection, apart from those replayed from the retained
messages. -/
def firsthand (connection : ConnectionId) (deliveries : List Delivery) : List Publish :=
  (deliveries.filter fun delivery =>
    delivery.connection = connection ∧ delivery.message.retain = false).map Delivery.message

namespace Registry

variable {before after : Registry} {client changed : String}

theorem waiting_congr (same : after.get? client = before.get? client) :
    after.waiting client = before.waiting client := by
  rw [waiting, waiting, same]

theorem waiting_of_get? {session : Session} (found : before.get? client = some session) :
    before.waiting client = session.backlog.messages := by
  rw [waiting, found]
  rfl

/-- If one session is changed, but not its backlog, then the same messages wait for those who are
away. -/
theorem waiting_of_changed {left : Option Session}
    (reads : after.get? client = if client = changed then left else before.get? client)
    (away : after.hasPersisted client = true)
    (keeps : client = changed → ∀ session, left = some session → session.link = none →
      session.backlog.messages = before.waiting client) :
    after.waiting client = before.waiting client := by
  obtain ⟨session, found, unbound⟩ := hasPersisted_iff.mp away
  by_cases same : client = changed
  · rw [if_pos same, found] at reads
    rw [waiting_of_get? found]
    exact keeps same session reads.symm unbound
  · rw [if_neg same] at reads
    exact waiting_congr reads

end Registry

namespace Broker

/-- The will that is published when the session of a client is released under a token. -/
def publishedWill? (broker : Broker) (client : String) (token : Token) (ending : Ending) :
    Option Will :=
  if broker.registry.isCurrent client token then
    (broker.registry.get? client).bind (leftWill ending)
  else none

/-- The messages that an operation offers to a client that is away: those of the topic that it
publishes, for each subscription that the client has at this moment. -/
def offersTo (broker : Broker) (client : String) : Operation → List Publish
  | .publish topic payload qos retain =>
    match (broker.publish topic payload qos retain).result with
    | .error _ => []
    | .ok () => awaited broker.subscriptions client topic payload qos
  | .release released token ending =>
    match broker.publishedWill? released token ending with
    | none => []
    | some will => awaited broker.subscriptions client will.topic will.payload will.qos
  | _ => []

/-- All messages that a run of operations offers to a client, in order. -/
def offered (client : String) (broker : Broker) : List Operation → List Publish
  | [] => []
  | operation :: operations =>
    broker.offersTo client operation ++
      offered client (broker.perform operation).broker operations

variable {broker : Broker} {client : String}

theorem retain_of_mem_awaited {subscriptions : Subscriptions} {topic : String} {payload : Payload}
    {qos : Qos} {message : Publish}
    (member : message ∈ awaited subscriptions client topic payload qos) :
    message.retain = false := by
  obtain ⟨subscription, _, rfl⟩ := List.mem_map.mp (List.mem_filter.mp member).1
  rfl

theorem retain_of_mem_offersTo {operation : Operation} {message : Publish}
    (member : message ∈ broker.offersTo client operation) : message.retain = false := by
  cases operation <;> simp only [offersTo] at member
  case publish =>
    split at member
    · cases member
    · exact retain_of_mem_awaited member
  case release =>
    split at member
    · cases member
    · exact retain_of_mem_awaited member
  all_goals cases member

theorem retain_of_mem_offered {operations : List Operation} {message : Publish}
    (member : message ∈ offered client broker operations) : message.retain = false := by
  induction operations generalizing broker with
  | nil => cases member
  | cons operation operations ih =>
      rcases List.mem_append.mp member with now | later
      · exact retain_of_mem_offersTo now
      · exact ih later

section Step

theorem waiting_eq_rtake (consistent : broker.Consistent) (client : String) :
    broker.registry.waiting client =
      (broker.registry.waiting client ++ []).rtake broker.settings.maxQueuedMessages := by
  rw [List.append_nil]
  refine (rtake_of_length_le _ _ ?_).symm
  unfold Registry.waiting
  cases found : broker.registry.get? client with
  | none => exact Nat.zero_le _
  | some session =>
      have sound := consistent.sessions client session found
      exact sound.capacity ▸ sound.fits

theorem waiting_of_quiet {α : Type} {outcome : Outcome α} {Refused : BrokerError → Prop}
    {Accepted : α → Broker → List Delivery → Prop} {answer : α → Reply}
    (consistent : broker.Consistent) (settles : outcome.Settles broker Refused Accepted)
    (away : (outcome.map answer).broker.registry.hasPersisted client = true)
    (quiet : ∀ answer after deliveries, Accepted answer after deliveries →
      after.registry.hasPersisted client = true →
      after.registry.waiting client = broker.registry.waiting client) :
    (outcome.map answer).broker.registry.waiting client =
      (broker.registry.waiting client ++ []).rtake broker.settings.maxQueuedMessages := by
  rw [← waiting_eq_rtake consistent]
  rcases settles with ⟨error, rfl, _⟩ | ⟨answer, after, deliveries, rfl, effect⟩
  · rfl
  · exact quiet answer after deliveries effect away

theorem hasPersisted_iff_of_publishes {topic : String} {payload : Payload} {qos : Qos}
    {retain : Bool} {after : Broker} {deliveries : List Delivery}
    (publishes : broker.Publishes topic payload qos retain after deliveries) :
    after.registry.hasPersisted client = true ↔ broker.registry.hasPersisted client = true := by
  rw [Registry.hasPersisted_iff, Registry.hasPersisted_iff, publishes.sessions]
  cases broker.registry.get? client <;> simp

theorem waiting_of_publishes (consistent : broker.Consistent) {topic : String} {payload : Payload}
    {qos : Qos} {retain : Bool} {after : Broker} {deliveries : List Delivery}
    (publishes : broker.Publishes topic payload qos retain after deliveries)
    (away : after.registry.hasPersisted client = true) :
    after.registry.waiting client =
      (broker.registry.waiting client ++
        awaited broker.subscriptions client topic payload qos).rtake
          broker.settings.maxQueuedMessages := by
  obtain ⟨session, found, unbound⟩ :=
    Registry.hasPersisted_iff.mp ((hasPersisted_iff_of_publishes publishes).mp away)
  have sound := consistent.sessions client session found
  have later := publishes.sessions client
  rw [found, Option.map_some] at later
  rw [Registry.waiting_of_get? found, Registry.waiting_of_get? later, Session.await]
  simp only [Session.isActive, unbound, Option.isSome_none, Bool.false_eq_true, if_false]
  rw [Backlog.pushAll_eq sound.fits, sound.capacity]

theorem waiting_tornDown {released : String} {session : Session}
    (found : broker.registry.get? released = some session)
    (away : (broker.tornDown released session).registry.hasPersisted client = true) :
    (broker.tornDown released session).registry.waiting client = broker.registry.waiting client := by
  refine Registry.waiting_of_changed (get?_tornDown broker released session client) away ?_
  rintro rfl left kept _
  split at kept
  case isTrue => cases kept
  case isFalse =>
    cases kept
    rw [Registry.waiting_of_get? found]

theorem awaited_tornDown (consistent : broker.Consistent) {released : String} {session : Session}
    (found : broker.registry.get? released = some session)
    (away : (broker.tornDown released session).registry.hasPersisted client = true)
    (topic : String) (payload : Payload) (qos : Qos) :
    awaited (broker.tornDown released session).subscriptions client topic payload qos =
      awaited broker.subscriptions client topic payload qos := by
  have torn := consistent.tornDown released found
  unfold awaited
  rw [Subscriptions.found_congr consistent.subscriptions torn.subscriptions]
  intro filter
  obtain ⟨kept, reads, _⟩ := Registry.hasPersisted_iff.mp away
  rw [get?_tornDown] at reads
  unfold tornDown
  split
  case isFalse => rfl
  case isTrue clean =>
    -- Only the released client has lost its subscriptions, and nothing is kept for it.
    have other : client ≠ released := by
      rintro rfl
      rw [if_pos rfl, if_pos clean] at reads
      cases reads
    refine (Subscriptions.granted?_unsubscribeAll broker.subscriptions released filter client).trans ?_
    rw [if_neg other]

/-- For a client that is away after an operation, what the operation offers has been appended to
what waited, and the oldest messages beyond the room for messages are gone. -/
theorem waiting_perform (consistent : broker.Consistent) (operation : Operation)
    (away : (broker.perform operation).broker.registry.hasPersisted client = true) :
    (broker.perform operation).broker.registry.waiting client =
      (broker.registry.waiting client ++ broker.offersTo client operation).rtake
        broker.settings.maxQueuedMessages := by
  cases operation with
  | subscribe filter subscriber qos =>
      apply waiting_of_quiet consistent (settles_subscribe consistent filter subscriber qos) away
      rintro granted after deliveries ⟨_, _, _, _, rfl, _⟩ _
      rfl
  | unsubscribe filter subscriber =>
      apply waiting_of_quiet consistent (settles_unsubscribe consistent filter subscriber) away
      rintro removed after deliveries ⟨_, _, rfl, _⟩ _
      rfl
  | unsubscribeAll subscriber =>
      apply waiting_of_quiet consistent (settles_unsubscribeAll broker subscriber) away
      rintro removed after deliveries ⟨_, rfl, _⟩ _
      rfl
  | publish topic payload qos retain =>
      change (broker.publish topic payload qos retain).broker.registry.hasPersisted client = true
        at away
      change (broker.publish topic payload qos retain).broker.registry.waiting client = _
      rw [offersTo]
      rcases settles_publish consistent topic payload qos retain with
        ⟨error, refused, _⟩ | ⟨answer, after, deliveries, accepted, publishes⟩
      · rw [refused]
        exact waiting_eq_rtake consistent client
      · rw [accepted] at away ⊢
        exact waiting_of_publishes consistent publishes away
  | retain topic payload qos =>
      apply waiting_of_quiet consistent (settles_retain consistent topic payload qos) away
      rintro _ after deliveries ⟨_, _, rfl, _⟩ _
      rfl
  | createSession changed connection =>
      apply waiting_of_quiet consistent (settles_createSession broker changed connection) away
      rintro token after deliveries ⟨_, _, rfl, _⟩ kept
      refine Registry.waiting_of_changed (get?_withFresh broker changed connection client) kept ?_
      rintro _ _ same unbound
      cases same
      cases unbound
  | resumeSession changed connection =>
      apply waiting_of_quiet consistent (settles_resumeSession changed connection consistent) away
      rintro token after deliveries ⟨session, _, _, _, rfl, _⟩ kept
      refine Registry.waiting_of_changed (get?_withBound broker changed session connection client)
        kept ?_
      rintro _ _ same unbound
      cases same
      cases unbound
  | suspendSession changed =>
      apply waiting_of_quiet consistent (settles_suspendSession broker changed) away
      rintro _ after deliveries ⟨session, found, rfl, _⟩ kept
      refine Registry.waiting_of_changed (get?_withUnbound broker changed session client) kept ?_
      rintro rfl _ same _
      cases same
      rw [Registry.waiting_of_get? found]
  | removeSession changed =>
      apply waiting_of_quiet consistent (settles_removeSession broker changed) away
      rintro _ after deliveries ⟨session, _, rfl, _⟩ kept
      refine Registry.waiting_of_changed (get?_without broker changed client) kept ?_
      rintro _ session none
      cases none
  | connect request connection generated =>
      refine waiting_of_quiet consistent (settles_connect request consistent connection generated)
        away ?_
      rintro reply after deliveries ⟨bound, _, _, _, _, binds, rfl⟩ kept
      obtain ⟨session, here, _, _, reads⟩ := get?_of_binds request binds
      apply Registry.waiting_of_changed (reads client) kept
      rintro _ _ same unbound
      cases same
      rw [here] at unbound
      cases unbound
  | release released token ending =>
      change (broker.release released token ending).broker.registry.hasPersisted client = true
        at away
      change (broker.release released token ending).broker.registry.waiting client = _
      rw [offersTo, publishedWill?]
      rcases settles_release released consistent token ending with
        ⟨error, _, never⟩ | ⟨flag, after, deliveries, accepted, rfl, effect⟩
      · exact never.elim
      · rw [accepted] at away ⊢
        split at effect
        case isFalse stale =>
          obtain ⟨rfl, _⟩ := effect
          rw [if_neg stale]
          exact waiting_eq_rtake consistent client
        case isTrue current =>
          obtain ⟨session, found, effect⟩ := effect
          rw [if_pos current, found, Option.bind_some]
          cases left : leftWill ending session with
          | none =>
              rw [left] at effect
              obtain ⟨rfl, _⟩ := effect
              exact (waiting_tornDown found away).trans (waiting_eq_rtake consistent client)
          | some will =>
              rw [left] at effect
              have torn := consistent.tornDown released found
              have kept := (hasPersisted_iff_of_publishes effect).mp away
              apply (waiting_of_publishes torn effect away).trans
              rw [waiting_tornDown found kept, settings_tornDown,
                awaited_tornDown consistent found kept]

end Step

section Run

/-- While a client is away, the last messages of those that waited first and those that were offered
since then wait for it. -/
theorem waiting_run (consistent : broker.Consistent) (operations : List Operation)
    (away : ∀ passed, passed <+: operations → passed ≠ [] →
      (broker.run passed).registry.hasPersisted client = true) :
    (broker.run operations).registry.waiting client =
      (broker.registry.waiting client ++ offered client broker operations).rtake
        broker.settings.maxQueuedMessages := by
  induction operations generalizing broker with
  | nil => exact waiting_eq_rtake consistent client
  | cons operation operations ih =>
      have continues := consistent.perform operation
      have first := away [operation] (by simp) (by simp)
      have later := ih continues.consistent fun passed started _ =>
        away (operation :: passed) (List.cons_prefix_cons.mpr ⟨rfl, started⟩) (by simp)
      -- What the first operation makes the backlog forget would be forgotten in the end.
      apply later.trans
      rw [waiting_perform consistent operation first, continues.settings, rtake_append_rtake,
        List.append_assoc]
      rfl

theorem waiting_since_departure (consistent : broker.Consistent) (departure : Operation)
    (between : List Operation) (here : broker.registry.hasActive client = true)
    (away : ∀ passed, passed <+: between →
      (broker.run (departure :: passed)).registry.hasPersisted client = true) :
    (broker.run (departure :: between)).registry.waiting client =
      (offered client broker (departure :: between)).rtake broker.settings.maxQueuedMessages := by
  obtain ⟨session, found, active⟩ := Registry.hasActive_iff.mp here
  have nothing := (consistent.sessions client session found).nothingWaits active
  rw [waiting_run consistent, Registry.waiting_of_get? found, nothing, List.nil_append]
  intro passed started nonempty
  rcases List.prefix_cons_iff.mp started with rfl | ⟨rest, rfl, later⟩
  · exact absurd rfl nonempty
  · exact away rest later

theorem firsthand_append {replayed : List Delivery} {messages : List Publish}
    {connection : ConnectionId}
    (marked : ∀ delivery ∈ replayed, delivery.message.retain = true)
    (unmarked : ∀ message ∈ messages, message.retain = false) :
    firsthand connection (replayed ++ messages.map fun message => ⟨connection, message⟩) =
      messages := by
  have none : (replayed.filter fun delivery =>
      delivery.connection = connection ∧ delivery.message.retain = false) = [] := by
    rw [List.filter_eq_nil_iff]
    intro delivery member
    simp [marked delivery member]
  have all : ((messages.map fun message => Delivery.mk connection message).filter fun delivery =>
      delivery.connection = connection ∧ delivery.message.retain = false) =
        messages.map fun message => Delivery.mk connection message := by
    rw [List.filter_eq_self]
    intro delivery member
    obtain ⟨message, offered, rfl⟩ := List.mem_map.mp member
    simp [unmarked message offered]
  rw [firsthand, List.filter_append, none, all, List.nil_append, List.map_map]
  exact List.map_id messages

theorem effectiveClient_of_kept {request : ConnectRequest} {generated effective : String}
    (notClean : request.clean = false)
    (known : effectiveClient request generated = .ok effective) : effective = request.client := by
  unfold effectiveClient at known
  rw [notClean] at known
  split at known
  case isTrue => cases known
  case isFalse =>
    cases known
    rfl

theorem deliveries_of_resumes (consistent : broker.Consistent) {comeback : Operation}
    {connection : ConnectionId} (resumes : comeback.Resumes client connection)
    (away : broker.registry.hasPersisted client = true) {reply : Reply}
    (succeeds : (broker.perform comeback).result = .ok reply) :
    (broker.perform comeback).deliveries = broker.replayedTo client connection ++
        (broker.registry.waiting client).map (⟨connection, ·⟩) ∧
      (broker.perform comeback).broker.registry.waiting client = [] := by
  cases comeback <;> try exact resumes.elim
  case resumeSession resumed onto =>
    obtain ⟨rfl, rfl⟩ := resumes
    obtain ⟨session, found, unbound⟩ := Registry.hasPersisted_iff.mp away
    have bound := get?_withBound broker resumed session onto resumed
    rw [if_pos rfl] at bound
    simp only [perform, resumeSession_of_away onto found consistent unbound]
    rw [Registry.waiting_of_get? found]
    exact ⟨rfl, Registry.waiting_of_get? bound⟩
  case connect request onto generated =>
    obtain ⟨rfl, notClean, rfl⟩ := resumes
    simp only [perform] at succeeds ⊢
    rcases settles_connect request consistent onto generated with
      ⟨error, refused, _⟩ | ⟨answer, after, deliveries, accepted, bound, known, _, _, present, binds,
        rfl⟩
    · rw [refused] at succeeds
      cases succeeds
    · have same := effectiveClient_of_kept notClean known
      rw [same, away, notClean] at present
      rw [same, present] at binds
      obtain ⟨later, _, _, nothing, reads⟩ := get?_of_binds request binds
      have entered := reads request.client
      rw [if_pos rfl] at entered
      obtain ⟨session, found, _, _, handed⟩ := binds
      rw [accepted, Registry.waiting_of_get? found, same]
      exact ⟨handed, (Registry.waiting_of_get? entered).trans nothing⟩

/-- What a client is handed when it comes back, apart from retained messages, is what was offered to
it since it left, in order and as much of the end of it as there is room for. -/
theorem firsthand_on_return (settings : BrokerSettings) (earlier between : List Operation)
    (departure comeback : Operation) (client : String) (connection : ConnectionId)
    (here : ((start settings).run earlier).registry.hasActive client = true)
    (away : ∀ passed, passed <+: between →
      ((start settings).run (earlier ++ departure :: passed)).registry.hasPersisted client = true)
    (resumes : comeback.Resumes client connection) (reply : Reply)
    (succeeds : (((start settings).run (earlier ++ departure :: between)).perform
      comeback).result = .ok reply) :
    let outcome := ((start settings).run (earlier ++ departure :: between)).perform comeback
    firsthand connection outcome.deliveries =
        (offered client ((start settings).run earlier) (departure :: between)).rtake
          settings.maxQueuedMessages ∧
      outcome.broker.registry.waiting client = [] := by
  intro outcome
  have left := (consistent_start settings).run earlier
  have reached := run_append (start settings) earlier (departure :: between)
  have gone := left.consistent.run (departure :: between)
  have waits : ((start settings).run (earlier ++ departure :: between)).registry.waiting client =
      (offered client ((start settings).run earlier) (departure :: between)).rtake
        settings.maxQueuedMessages := by
    have since := waiting_since_departure left.consistent departure between here
      fun passed started =>
        run_append (start settings) earlier (departure :: passed) ▸ away passed started
    rw [left.settings] at since
    rw [reached]
    exact since
  obtain ⟨handed, taken⟩ := deliveries_of_resumes (reached ▸ gone.consistent) resumes
    (away between List.prefix_rfl) succeeds
  rw [waits] at handed
  refine ⟨?_, taken⟩
  refine (congrArg (firsthand connection) handed).trans (firsthand_append ?_ ?_)
  · exact fun delivery member => (of_mem_replayedTo member).2
  · exact fun message member => retain_of_mem_offered (List.mem_of_mem_drop member)

/-- The connection of a client is lost.  Its own will and two copies of a message are offered to it,
and there is room for two messages. -/
theorem firsthand_after_lost_connection :
    let settings : BrokerSettings := ⟨.exactlyOnce, true, 0, 2, 1024⟩
    let earlier : List Operation :=
      [.connect ⟨"ann", false, some ⟨"gone", [7], .atLeastOnce, false⟩⟩ ⟨0⟩ "",
        .subscribe "#" "ann" .atLeastOnce, .subscribe "a/+" "ann" .exactlyOnce]
    let since : List Operation :=
      [.release "ann" ⟨1⟩ .connectionLost, .publish "a/b" [1] .exactlyOnce false,
        .publish "c" [2] .atMostOnce false]
    let outcome := ((start settings).run (earlier ++ since)).perform
      (.connect ⟨"ann", false, none⟩ ⟨5⟩ "")
    offered "ann" ((start settings).run earlier) since =
        [.first "gone" [7] .atLeastOnce false, .first "a/b" [1] .atLeastOnce false,
          .first "a/b" [1] .exactlyOnce false] ∧
      firsthand ⟨5⟩ outcome.deliveries =
        (offered "ann" ((start settings).run earlier) since).rtake 2 ∧
      outcome.broker.registry.waiting "ann" = [] := by
  refine ⟨by decide +kernel, ?_⟩
  refine firsthand_on_return ⟨.exactlyOnce, true, 0, 2, 1024⟩ _ _ _ _ "ann" ⟨5⟩ ?_ ?_
    ⟨rfl, rfl, rfl⟩ (.connected ⟨"ann", ⟨2⟩, true⟩) ?_
  · decide +kernel
  · intro passed started
    have every : ∀ passed ∈ List.inits [Operation.publish "a/b" [1] .exactlyOnce false,
        .publish "c" [2] .atMostOnce false],
        ((start ⟨.exactlyOnce, true, 0, 2, 1024⟩).run
          ([Operation.connect ⟨"ann", false, some ⟨"gone", [7], .atLeastOnce, false⟩⟩ ⟨0⟩ "",
            .subscribe "#" "ann" .atLeastOnce, .subscribe "a/+" "ann" .exactlyOnce] ++
            .release "ann" ⟨1⟩ .connectionLost :: passed)).registry.hasPersisted "ann" = true := by
      decide +kernel
    exact every passed ((List.mem_inits passed _).mpr started)
  · decide +kernel

end Run

end Broker

end TopicBroker

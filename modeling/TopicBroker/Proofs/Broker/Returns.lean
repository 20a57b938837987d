import TopicBroker.Proofs.Broker.Absence
import TopicBroker.Proofs.Broker.Replays
import TopicBroker.Proofs.Broker.Wills

/-!
# Coming back to a kept session

A client that is away comes back by resuming its session, or by a request that
does not want a clean one.  Its new connection is handed two things, one after
the other: each message that is retained for one of its subscriptions, once for
every subscription that selects it, and then what has waited, oldest first.
Nothing else changes than the session that is bound: it gets a token that no
operation of the history has issued, and nothing waits in it any more.

Resuming is never refused.  A request is refused if it leaves the id of the
client open or if its will could not be published.
-/

namespace TopicBroker.Broker

/-- Each live subscription of the client is listed with each message that it selects from those that
are retained. -/
structure PairsRetained (broker : Broker) (client : String)
    (pairs : List (Subscription × String × RetainedMessage)) : Prop where
  once : pairs.Nodup
  mem : ∀ subscription topic message, (subscription, topic, message) ∈ pairs ↔
    broker.settings.retainAvailable = true ∧
      subscription ∈ broker.subscriptions.live ∧ subscription.client = client ∧
        broker.retained.get? topic = some message ∧ topicMatches subscription.filter topic = true

/-- The client is bound to the connection in the session that was kept for it, with this answer, and
its backlog is handed over.  Something may be entered into the session besides. -/
structure HandsBacklog {α : Type} (broker : Broker) (client : String) (connection : ConnectionId)
    (entered : Session → Session) (answer : α) (outcome : Outcome α) : Prop where
  succeeds : outcome.result = .ok answer
  handsOver : ∃ pairs, broker.PairsRetained client pairs ∧ outcome.deliveries =
    (pairs.map fun (subscription, retained) =>
      replayOf connection subscription.granted retained) ++
        (broker.registry.waiting client).map (Delivery.mk connection)
  binds : ∃ session, broker.registry.get? client = some session ∧
    outcome.broker.registry.get? client =
      some (entered (session.boundTo ⟨broker.registry.nextToken, connection⟩))
  leavesOthers : ∀ other, other ≠ client →
    outcome.broker.registry.get? other = broker.registry.get? other
  leavesSubscriptions : outcome.broker.subscriptions = broker.subscriptions
  leavesRetained : outcome.broker.retained = broker.retained

/-- A request with which the client asks for the session that was kept for it has this outcome.  A
request that is refused changes nothing. -/
structure AnswersReturn (broker : Broker) (client : String) (connection : ConnectionId)
    (request : ConnectRequest) (outcome : Outcome ConnectReply) : Prop where
  unnamed : client = "" → outcome = ⟨.error .clientIdRejected, broker, []⟩
  invalidWill : client ≠ "" → ∀ will, request.will = some will →
    checkName broker.settings.maxTopicLevels will.topic ≠ .ok () →
      ∃ fault, outcome = ⟨.error (.topic (.invalidName fault)), broker, []⟩
  returns : client ≠ "" → (∀ will, request.will = some will →
      checkName broker.settings.maxTopicLevels will.topic = .ok ()) →
    broker.HandsBacklog client connection
      (fun session => { session with clean := false, will := request.will })
      ⟨client, broker.registry.nextToken, true⟩ outcome

variable {broker : Broker} {client : String}

section Pairs

/-- The subscriptions of a client in the order of its filters, each with what it selects. -/
def retainedPairs (broker : Broker) (client : String) :
    List (Subscription × String × RetainedMessage) :=
  if broker.settings.retainAvailable then
    (broker.subscriptions.filtersOf client).flatMap fun (filter, granted) =>
      (broker.retained.held.filter fun entry => topicMatches filter entry.1).map
        (⟨filter, client, granted⟩, ·)
  else []

theorem nodup_retainedPairs (consistent : broker.Consistent) (sound : broker.retained.Sound)
    (client : String) : (broker.retainedPairs client).Nodup := by
  have held : broker.retained.held.Nodup := List.Nodup.of_map _ (Retained.nodup_topics sound)
  have filters := Subscriptions.nodup_filtersOf consistent.subscriptions client
  unfold retainedPairs
  split
  case isTrue =>
    refine List.nodup_flatMap.mpr ⟨?_, (List.pairwise_map.mp filters).imp ?_⟩
    · rintro ⟨filter, granted⟩ _
      exact (held.filter _).map (Prod.mk_right_injective _)
    · rintro ⟨first, _⟩ ⟨second, _⟩ different pair inFirst inSecond
      obtain ⟨_, _, rfl⟩ := List.mem_map.mp inFirst
      obtain ⟨_, _, same⟩ := List.mem_map.mp inSecond
      cases same
      exact different rfl
  case isFalse => exact List.nodup_nil

theorem pairsRetained_retainedPairs (consistent : broker.Consistent)
    (sound : broker.retained.Sound) (client : String) :
    broker.PairsRetained client (broker.retainedPairs client) := by
  refine ⟨nodup_retainedPairs consistent sound client, ?_⟩
  rintro ⟨filter, owner, granted⟩ topic message
  unfold retainedPairs
  split
  case isTrue available =>
    simp only [available, true_and, List.mem_flatMap, List.mem_map, List.mem_filter, Prod.exists,
      Subscriptions.mem_filtersOf, Retained.mem_held sound]
    constructor
    · rintro ⟨_, _, live, _, _, ⟨kept, applies⟩, same⟩
      cases same
      exact ⟨live, rfl, kept, applies⟩
    · rintro ⟨live, rfl, kept, applies⟩
      exact ⟨filter, granted, live, topic, message, ⟨kept, applies⟩, rfl⟩
  case isFalse unavailable => simp [unavailable]

theorem replayedTo_eq (consistent : broker.Consistent) (sound : broker.retained.Sound)
    (client : String) (connection : ConnectionId) :
    broker.replayedTo client connection =
      (broker.retainedPairs client).map fun (subscription, retained) =>
        replayOf connection subscription.granted retained := by
  unfold replayedTo retainedPairs
  by_cases available : broker.settings.retainAvailable = true
  · rw [if_pos available, List.map_flatMap]
    refine List.flatMap_congr fun entry member => ?_
    have valid := consistent.valid_of_mem_filtersOf member
    have selects := replayed_eq available sound valid entry.2 connection
    rw [List.map_map]
    exact selects
  · simp [available, replayed]

end Pairs

section Return

variable {session : Session} (connection : ConnectionId) (consistent : broker.Consistent)
  (sound : broker.retained.Sound) (found : broker.registry.get? client = some session)
include consistent sound found

theorem deliveries_of_return :
    ∃ pairs, broker.PairsRetained client pairs ∧
      broker.replayedTo client connection ++ session.backlog.messages.map (⟨connection, ·⟩) =
        (pairs.map fun (subscription, retained) =>
          replayOf connection subscription.granted retained) ++
            (broker.registry.waiting client).map (Delivery.mk connection) := by
  refine ⟨_, pairsRetained_retainedPairs consistent sound client, ?_⟩
  rw [replayedTo_eq consistent sound, Registry.waiting_of_get? found]

variable (away : session.link = none)
include away

theorem resumeSession_handsBacklog :
    broker.HandsBacklog client connection id broker.registry.nextToken
      (broker.resumeSession client connection) := by
  have reads := get?_withBound broker client session connection
  rw [resumeSession_of_away connection found consistent away]
  refine ⟨rfl, deliveries_of_return connection consistent sound found, ?_, ?_, rfl, rfl⟩
  · exact ⟨session, found, (reads client).trans (if_pos rfl)⟩
  · intro other different
    exact (reads other).trans (if_neg different)

theorem connect_handsBacklog {request : ConnectRequest} (own : request.client = client)
    (named : client ≠ "") (notClean : request.clean = false)
    (validWill : broker.checkWill request.will = .ok ()) (generated : String) :
    broker.HandsBacklog client connection
      (fun session => { session with clean := false, will := request.will })
      ⟨client, broker.registry.nextToken, true⟩
      (broker.connect request connection generated) := by
  have kept : broker.registry.hasPersisted client = true :=
    Registry.hasPersisted_iff.mpr ⟨session, found, away⟩
  have notHere : broker.registry.hasActive client = false :=
    Registry.not_hasActive_of_away found away
  have effective : effectiveClient request generated = .ok client := by
    rw [effectiveClient, own, if_neg named]
  have resumed := resumeSession_of_away connection found consistent away
  have handed := deliveries_of_return connection consistent sound found
  have reads (other : String) := get?_enterRequest client request
    (broker.withBound client session connection) other
  simp only [get?_withBound, if_true, Option.map_some] at reads
  rw [connect_of_away request effective validWill notHere, kept, notClean, Bool.not_false,
    Bool.and_true, if_pos rfl, resumed, Outcome.andThen_accept rfl, List.append_nil]
  refine ⟨rfl, handed, ⟨session, found, ?_⟩, ?_, ?_, ?_⟩
  · rw [← notClean]
    exact (reads client).trans (if_pos rfl)
  · intro other different
    have same := reads other
    rw [if_neg different, if_neg different] at same
    exact same
  · exact subscriptions_enterRequest client request
  · exact retained_enterRequest client request

theorem connect_answersReturn {request : ConnectRequest} (own : request.client = client)
    (notClean : request.clean = false) (generated : String) :
    broker.AnswersReturn client connection request
      (broker.connect request connection generated) where
  unnamed empty := by
    apply connect_of_rejected
    rw [effectiveClient, if_pos (own.trans empty), notClean]
    rfl
  invalidWill named will left invalid := by
    have effective : effectiveClient request generated = .ok client := by
      rw [effectiveClient, own, if_neg named]
    have checked := checkWill_eq broker request.will
    rw [left, Option.bind_some] at checked
    cases faulty : nameFault? broker.settings.maxTopicLevels will.topic with
    | none => exact absurd (checkName_eq_ok_iff.mpr faulty) invalid
    | some fault =>
        rw [faulty] at checked
        exact ⟨fault, connect_of_invalidWill request effective (left ▸ checked)⟩
  returns named valid := by
    have validWill : broker.checkWill request.will = .ok () := by
      cases left : request.will with
      | none => rfl
      | some will => exact valid will left
    exact connect_handsBacklog connection consistent sound found away own named notClean validWill
      generated

end Return

/-- A client that is away is handed its backlog when it comes back, under a token that has not been
issued before.  A request is refused if it has no id or if its will could not be published. -/
theorem handsBacklog_on_return (settings : BrokerSettings) (history : List Operation)
    (client : String) (connection : ConnectionId)
    (away : ((start settings).run history).registry.hasPersisted client = true) :
    let broker := (start settings).run history
    let token := broker.registry.nextToken
    (∀ earlier operation later other, history = earlier ++ operation :: later →
      ¬ ((start settings).run earlier).Issues other token operation) ∧
    broker.HandsBacklog client connection id token (broker.resumeSession client connection) ∧
    ∀ (request : ConnectRequest) (generated : String), request.client = client →
      request.clean = false → broker.AnswersReturn client connection request
        (broker.connect request connection generated) := by
  intro broker token
  have consistent := ((consistent_start settings).run history).consistent
  have sound := sound_retained_run settings history
  obtain ⟨session, found, unbound⟩ := Registry.hasPersisted_iff.mp away
  have resumes := resumeSession_handsBacklog connection consistent sound found unbound
  refine ⟨?_, resumes, fun request generated own notClean => ?_⟩
  · -- Resuming the session would issue the token, and no token is issued twice.
    rintro earlier operation later other rfl issues
    have reissues : broker.Issues client token (.resumeSession client connection) :=
      ⟨.bound token, congrArg (Except.map Reply.bound) resumes.succeeds, rfl, rfl⟩
    have reached := ((consistent_start settings).run earlier).consistent
    rw [show broker = _ from run_append (start settings) earlier (operation :: later)] at reissues
    exact not_issues_later reached issues later reissues
  · exact connect_answersReturn connection consistent sound found unbound own notClean generated

/-- Two filters of the client select the same retained message, and another message has waited. -/
theorem handsBacklog_of_overlapping_filters :
    let history : List Operation :=
      [.createSession "ann" ⟨0⟩, .retain "a/b" [1] .exactlyOnce, .subscribe "a/+" "ann" .atLeastOnce,
        .subscribe "#" "ann" .exactlyOnce, .suspendSession "ann",
        .publish "c" [2] .atLeastOnce false]
    let broker := (start default).run history
    let request : ConnectRequest := ⟨"ann", false, some ⟨"gone", [7], .atLeastOnce, false⟩⟩
    let token := broker.registry.nextToken
    broker.registry.hasPersisted "ann" = true ∧
      broker.HandsBacklog "ann" ⟨1⟩ id token (broker.resumeSession "ann" ⟨1⟩) ∧
      broker.HandsBacklog "ann" ⟨1⟩
        (fun session => { session with clean := false, will := request.will })
        ⟨"ann", token, true⟩ (broker.connect request ⟨1⟩ "") := by
  intro history broker request token
  have away : ((start default).run history).registry.hasPersisted "ann" = true := by decide +kernel
  have validWill (will : Will) (left : request.will = some will) :
      checkName broker.settings.maxTopicLevels will.topic = .ok () := by
    obtain rfl := Option.some.inj left
    decide +kernel
  obtain ⟨_, resumes, connects⟩ := handsBacklog_on_return default history "ann" ⟨1⟩ away
  exact ⟨away, resumes, (connects request "" rfl rfl).returns (by decide) validWill⟩

/-- Not every request that keeps the session is accepted: the will may have a topic that it cannot be
published on, and a client that has been given a session without an id cannot ask for it. -/
theorem refused_on_return :
    let broker := (start default).run [.createSession "ann" ⟨0⟩, .suspendSession "ann",
      .createSession "" ⟨1⟩, .suspendSession ""]
    (broker.registry.hasPersisted "ann" = true ∧
      (broker.connect ⟨"ann", false, some ⟨"a/#", [7], .atLeastOnce, false⟩⟩ ⟨2⟩ "").result =
        .error (.topic (.invalidName .wildcard))) ∧
    broker.registry.hasPersisted "" = true ∧
      (broker.connect ⟨"", false, none⟩ ⟨2⟩ "generated").result = .error .clientIdRejected := by
  decide +kernel

end TopicBroker.Broker

import TopicBroker.Proofs.Broker.Absence
import TopicBroker.Proofs.Broker.Lifetimes

/-!
# What causes a delivery

A client is handed a message for one of three reasons: the message is published
while a matching subscription is in place, it is replayed to a subscription
that has just been made or to a client that comes back, or it has waited for
the client.  What waits was published to a subscription of the same session.
Subscriptions in place belong to the session that the client has, so nothing
that was subscribed in an earlier session causes anything.
-/

namespace TopicBroker.Broker

/-- The operation publishes this message, be it as the will of a client. -/
def Publicizes (topic : String) (payload : Payload) (qos : Qos) (broker : Broker) :
    Operation → Prop :=
  broker.Does fun
    | .publish published content guarantee _, _ =>
      published = topic ∧ content = payload ∧ guarantee = qos
    | .release released _ ending, .flag true =>
      ∃ will, (broker.registry.get? released).bind (leftWill ending) = some will ∧
        will.topic = topic ∧ will.payload = payload ∧ will.qos = qos
    | _, _ => False

/-- The operation binds the client to a connection in the session that was kept for it. -/
def Recalls (client : String) (broker : Broker) : Operation → Prop :=
  broker.Does fun
    | .resumeSession resumed _, _ => resumed = client
    | .connect .., .connected reply => reply.client = client ∧ reply.sessionPresent = true
    | _, _ => False

/-- The operation publishes a message that the subscription turns into this one. -/
def Routes (subscription : Subscription) (message : Publish) (broker : Broker)
    (operation : Operation) : Prop :=
  ∃ topic payload qos, broker.Publicizes topic payload qos operation ∧
    topicMatches subscription.filter topic = true ∧
    message = messageFor topic payload qos subscription.granted

/-- The operation makes the subscription or recalls its client, and the subscription turns a
retained message into this one. -/
def Replays (subscription : Subscription) (message : Publish) (broker : Broker)
    (operation : Operation) : Prop :=
  (broker.Makes subscription operation ∨ broker.Recalls subscription.client operation) ∧
    ∃ topic stored, broker.retained.get? topic = some stored ∧
      topicMatches subscription.filter topic = true ∧
      message = { topic, payload := stored.payload, qos := min stored.qos subscription.granted
                  retain := true, duplicate := false }

/-- The message was published to a subscription of the client that was in place then, and the client
has had the same session since. -/
def Queued (settings : BrokerSettings) (history : List Operation) (client : String)
    (message : Publish) : Prop :=
  ∃ earlier publication later, history = earlier ++ publication :: later ∧
    (∃ subscription : Subscription, subscription.client = client ∧
      InPlace settings (earlier ++ [publication]) subscription ∧
      ((start settings).run earlier).Routes subscription message publication) ∧
    Never next (Bounds client) ((start settings).run (earlier ++ [publication])) later

variable {broker : Broker} {client : String} {operation : Operation} {message : Publish}

section Waiting

theorem waiting_of_not_away (consistent : broker.Consistent)
    (notAway : broker.registry.hasPersisted client = false) :
    broker.registry.waiting client = [] := by
  unfold Registry.waiting
  cases found : broker.registry.get? client with
  | none => rfl
  | some session =>
      refine (consistent.sessions client session found).nothingWaits ?_
      rcases Registry.hasActive_or_hasPersisted found with here | away
      · obtain ⟨_, there, active⟩ := Registry.hasActive_iff.mp here
        exact Option.some.inj (found.symm.trans there) ▸ active
      · rw [notAway] at away
        cases away

theorem waiting_of_here (consistent : broker.Consistent) {connection : ConnectionId}
    (here : broker.registry.connection? client = some connection) :
    broker.registry.waiting client = [] := by
  refine waiting_of_not_away consistent (Bool.eq_false_iff.mpr fun away => ?_)
  obtain ⟨session, found, unbound⟩ := Registry.hasPersisted_iff.mp away
  obtain ⟨_, link, also, bound, _⟩ := Registry.connection?_eq_some_iff.mp here
  rw [Option.some.inj (also.symm.trans found), unbound] at bound
  cases bound

/-- A client whose session has just begun or ended is not away. -/
theorem not_away_of_bounds (consistent : broker.Consistent)
    (bounds : broker.Bounds client operation) :
    (broker.next operation).registry.hasPersisted client = false := by
  have here : broker.Does (Concerns client) operation :=
    bounds.elim concerns_of_begins concerns_of_ends
  simp only [Bounds, Begins, Ends, ← does_or] at bounds
  obtain ⟨reply, after, deliveries, accepted, effect, kind⟩ := effect_of_does consistent bounds
  rw [does_iff_of_accept accepted] at here
  rw [next_of_accept accepted, ← Bool.not_eq_true, Registry.hasPersisted_iff]
  rintro ⟨session, found, away⟩
  rcases effect.session client with leaves | ⟨elsewhere, _⟩
  · rw [found] at leaves
    cases leaves with
    | created => cases away
    | connected link =>
        rw [link] at away
        cases away
    | released there notClean => simp [there, notClean] at kind
    | resumed | suspended => simp at kind
  · exact elsewhere here

theorem mem_waiting_next (consistent : broker.Consistent)
    (waits : message ∈ (broker.next operation).registry.waiting client) :
    (broker.next operation).registry.hasPersisted client = true ∧
      (message ∈ broker.offersTo client operation ∨
        (message ∈ broker.registry.waiting client ∧ ¬ broker.Bounds client operation)) := by
  have away : (broker.next operation).registry.hasPersisted client = true := by
    by_contra notAway
    rw [waiting_of_not_away (consistent.next operation) (by simpa using notAway)] at waits
    cases waits
  refine ⟨away, ?_⟩
  have bounds : ¬ broker.Bounds client operation := by
    intro bounds
    rw [not_away_of_bounds consistent bounds] at away
    cases away
  have appended := waiting_perform consistent operation away
  rw [next, appended] at waits
  rcases List.mem_append.mp (List.mem_of_mem_drop waits) with before | offered
  · exact Or.inr ⟨before, bounds⟩
  · exact Or.inl offered

theorem mem_awaited {subscriptions : Subscriptions} (sound : subscriptions.Sound) {topic : String}
    {payload : Payload} {qos : Qos} :
    message ∈ awaited subscriptions client topic payload qos ↔
      Qos.atMostOnce < message.qos ∧ ∃ subscription : Subscription,
        subscription.client = client ∧
        subscriptions.granted? subscription.filter client = some subscription.granted ∧
        topicMatches subscription.filter topic = true ∧
        message = messageFor topic payload qos subscription.granted := by
  unfold awaited
  simp only [List.mem_filter, List.mem_map, Subscriptions.mem_found, Subscriptions.mem_live sound,
    decide_eq_true_eq]
  constructor
  · rintro ⟨⟨subscription, ⟨live, rfl, applies⟩, rfl⟩, survives⟩
    exact ⟨survives, subscription, rfl, live, applies, rfl⟩
  · rintro ⟨survives, subscription, rfl, live, applies, rfl⟩
    exact ⟨⟨subscription, ⟨live, rfl, applies⟩, rfl⟩, survives⟩

theorem release_of_publishedWill (consistent : broker.Consistent) {released : String}
    {token : Token} {ending : Ending} {will : Will}
    (left : broker.publishedWill? released token ending = some will) :
    ∃ session after deliveries, broker.registry.get? released = some session ∧
      leftWill ending session = some will ∧
      broker.perform (.release released token ending) = after.accept (.flag true) deliveries ∧
      (broker.tornDown released session).Publishes will.topic will.payload will.qos will.retain
        after deliveries := by
  unfold publishedWill? at left
  split at left
  case isFalse => cases left
  case isTrue current =>
    obtain ⟨session, found, leaves⟩ := Option.bind_eq_some_iff.mp left
    rcases settles_release released consistent token ending with
      ⟨error, _, never⟩ | ⟨flag, after, deliveries, accepted, rfl, effect⟩
    · exact never.elim
    · rw [if_pos current] at effect
      obtain ⟨_, there, effect⟩ := effect
      obtain rfl := Option.some.inj (found.symm.trans there)
      rw [leaves] at effect
      refine ⟨session, after, deliveries, found, leaves, ?_, effect⟩
      rw [perform, accepted, current]
      rfl

/-- What is offered to a client that is away is published to one of its subscriptions that are in
place then. -/
theorem routes_of_mem_offersTo (consistent : broker.Consistent)
    (away : (broker.next operation).registry.hasPersisted client = true)
    (offered : message ∈ broker.offersTo client operation) :
    Qos.atMostOnce < message.qos ∧ ∃ subscription : Subscription,
      subscription.client = client ∧
      (broker.next operation).subscriptions.granted? subscription.filter client =
        some subscription.granted ∧
      broker.Routes subscription message operation := by
  cases operation with
  | publish topic payload qos retain =>
      rw [offersTo] at offered
      rcases settles_publish consistent topic payload qos retain with
        ⟨error, refused, _⟩ | ⟨_, after, deliveries, accepted, publishes⟩
      · rw [refused] at offered
        cases offered
      · rw [accepted] at offered
        have performed : broker.perform (.publish topic payload qos retain) =
            after.accept .done deliveries := by
          rw [perform, accepted]
          rfl
        obtain ⟨survives, subscription, own, live, applies, sent⟩ :=
          (mem_awaited consistent.subscriptions).mp offered
        refine ⟨survives, subscription, own, ?_, topic, payload, qos, ?_, applies, sent⟩
        · rw [next_of_accept performed, publishes.subscriptions]
          exact live
        · exact ⟨.done, by rw [performed]; rfl, rfl, rfl, rfl⟩
  | release released token ending =>
      cases left : broker.publishedWill? released token ending with
      | none =>
          simp only [offersTo, left] at offered
          cases offered
      | some will =>
          obtain ⟨session, after, deliveries, found, leaves, performed, publishes⟩ :=
            release_of_publishedWill consistent left
          rw [next_of_accept performed] at away ⊢
          have torn := consistent.tornDown released found
          have kept := (hasPersisted_iff_of_publishes publishes).mp away
          simp only [offersTo, left] at offered
          rw [← awaited_tornDown consistent found kept] at offered
          obtain ⟨survives, subscription, own, live, applies, sent⟩ :=
            (mem_awaited torn.subscriptions).mp offered
          refine ⟨survives, subscription, own, ?_, will.topic, will.payload, will.qos, ?_, applies,
            sent⟩
          · rw [publishes.subscriptions]
            exact live
          · refine ⟨.flag true, by rw [performed]; rfl, will, ?_, rfl, rfl, rfl⟩
            rw [found]
            exact leaves
  | _ => cases offered

end Waiting

section Handed

variable {delivery : Delivery}

theorem connection?_of_publishes {topic : String} {payload : Payload} {qos : Qos} {retain : Bool}
    {after : Broker} {deliveries : List Delivery}
    (publishes : broker.Publishes topic payload qos retain after deliveries) (client : String) :
    after.registry.connection? client = broker.registry.connection? client := by
  rw [Registry.connection?_eq, Registry.connection?_eq, publishes.sessions, Option.map_map]
  simp [Function.comp_def]

theorem routed_of_publishes (consistent : broker.Consistent) {topic : String} {payload : Payload}
    {qos : Qos} {retain : Bool} {after : Broker} {deliveries : List Delivery}
    (publishes : broker.Publishes topic payload qos retain after deliveries)
    (handed : delivery ∈ deliveries) :
    ∃ subscription : Subscription,
      after.registry.connection? subscription.client = some delivery.connection ∧
      after.subscriptions.granted? subscription.filter subscription.client =
        some subscription.granted ∧
      topicMatches subscription.filter topic = true ∧
      delivery.message = messageFor topic payload qos subscription.granted := by
  rw [publishes.deliveries, List.mem_filterMap] at handed
  obtain ⟨subscription, hit, handed⟩ := handed
  obtain ⟨connection, bound, rfl⟩ := Option.map_eq_some_iff.mp handed
  have found := (Subscriptions.hits_perm consistent.subscriptions
    (plainLevels_of_valid publishes.valid)).mem_iff.mp hit
  obtain ⟨live, applies⟩ := List.mem_filter.mp found
  refine ⟨subscription, ?_, ?_, by simpa using applies, rfl⟩
  · rw [connection?_of_publishes publishes, bound]
  · rw [publishes.subscriptions]
    exact (Subscriptions.mem_live consistent.subscriptions).mp live

theorem mem_replayed (sound : broker.retained.Sound) {filter : String} {granted : Qos}
    {connection : ConnectionId} (valid : filterFault? broker.retained.maxLevels filter = none)
    (handed : delivery ∈ broker.replayed filter granted connection) :
    delivery.connection = connection ∧
      ∃ topic stored, broker.retained.get? topic = some stored ∧
        topicMatches filter topic = true ∧
        delivery.message = { topic, payload := stored.payload, qos := min stored.qos granted
                             retain := true, duplicate := false } := by
  unfold replayed at handed
  split at handed
  case isFalse => cases handed
  case isTrue =>
    obtain ⟨⟨topic, message⟩, selected, rfl⟩ := List.mem_map.mp handed
    obtain ⟨applies, stored, kept, rfl⟩ := (Retained.mem_selected sound valid).mp selected
    exact ⟨rfl, topic, stored, kept, applies, rfl⟩

theorem mem_replayedTo (consistent : broker.Consistent) (sound : broker.retained.Sound)
    {connection : ConnectionId} (handed : delivery ∈ broker.replayedTo client connection) :
    delivery.connection = connection ∧ ∃ subscription : Subscription,
      subscription.client = client ∧
      broker.subscriptions.granted? subscription.filter client = some subscription.granted ∧
      ∃ topic stored, broker.retained.get? topic = some stored ∧
        topicMatches subscription.filter topic = true ∧
        delivery.message = { topic, payload := stored.payload
                             qos := min stored.qos subscription.granted
                             retain := true, duplicate := false } := by
  obtain ⟨⟨filter, granted⟩, member, handed⟩ := List.mem_flatMap.mp handed
  have live := (Subscriptions.mem_live consistent.subscriptions).mp
    (Subscriptions.mem_filtersOf.mp member)
  obtain ⟨onto, replayed⟩ := mem_replayed sound (consistent.valid_of_mem_filtersOf member) handed
  exact ⟨onto, ⟨filter, client, granted⟩, rfl, live, replayed⟩

/-- A message that a client is handed is routed or replayed to one of its subscriptions, or it has
waited for the client that is recalled now. -/
def HandedTo (client : String) (broker : Broker) (operation : Operation) (message : Publish) :
    Prop :=
  (∃ subscription : Subscription, subscription.client = client ∧
    (broker.next operation).subscriptions.granted? subscription.filter client =
      some subscription.granted ∧
    (broker.Routes subscription message operation ∨
      broker.Replays subscription message operation)) ∨
  (broker.Recalls client operation ∧ message ∈ broker.registry.waiting client)

theorem handedTo_of_recalls (consistent : broker.Consistent) (sound : broker.retained.Sound)
    (recalls : broker.Recalls client operation) {session : Session}
    (found : broker.registry.get? client = some session) {connection : ConnectionId}
    (same : ∀ filter, (broker.next operation).subscriptions.granted? filter client =
      broker.subscriptions.granted? filter client)
    (handed : delivery ∈ broker.replayedTo client connection ++
      session.backlog.messages.map (⟨connection, ·⟩)) :
    delivery.connection = connection ∧ broker.HandedTo client operation delivery.message := by
  rcases List.mem_append.mp handed with replayed | waited
  · obtain ⟨onto, subscription, own, live, replays⟩ := mem_replayedTo consistent sound replayed
    refine ⟨onto, Or.inl ⟨subscription, own, (same _).trans live, Or.inr ⟨Or.inr ?_, replays⟩⟩⟩
    rw [own]
    exact recalls
  · obtain ⟨message, waits, rfl⟩ := List.mem_map.mp waited
    rw [← Registry.waiting_of_get? found] at waits
    exact ⟨rfl, Or.inr ⟨recalls, waits⟩⟩

theorem handed_next (consistent : broker.Consistent) (sound : broker.retained.Sound)
    (handed : delivery ∈ (broker.perform operation).deliveries) :
    ∃ client, (broker.next operation).registry.connection? client = some delivery.connection ∧
      broker.HandedTo client operation delivery.message := by
  rcases settles_effect consistent operation with
    ⟨error, refused, _⟩ | ⟨reply, after, deliveries, performed, effect⟩
  · rw [refused] at handed
    cases handed
  have reached := next_of_accept performed
  rw [performed] at handed
  change delivery ∈ deliveries at handed
  cases effect with
  | @subscribes filter client qos granted session subscriptions found accepted =>
      cases here : session.connection? with
      | none =>
          rw [here] at handed
          cases handed
      | some connection =>
          rw [here] at handed
          have valid := (Subscriptions.revises_subscribe accepted).1
          rw [consistent.filterLevels, ← consistent.retainedLevels] at valid
          obtain ⟨rfl, replayed⟩ := mem_replayed sound valid handed
          refine ⟨client, ?_, Or.inl ⟨⟨filter, client, granted⟩, rfl, ?_,
            Or.inr ⟨Or.inl ?_, replayed⟩⟩⟩
          · rw [reached, Registry.connection?, found]
            exact here
          · rw [reached, Subscriptions.granted?_subscribe accepted, if_pos ⟨rfl, rfl⟩]
          · exact ⟨_, by rw [performed]; rfl, rfl⟩
  | @publishes topic payload qos retain _ _ publishes =>
      obtain ⟨subscription, bound, live, applies, sent⟩ := routed_of_publishes consistent publishes
        handed
      rw [← reached] at bound live
      refine ⟨subscription.client, bound, Or.inl ⟨subscription, rfl, live, Or.inl
        ⟨topic, payload, qos, ?_, applies, sent⟩⟩⟩
      exact ⟨_, by rw [performed]; rfl, rfl, rfl, rfl⟩
  | @resumes client session found away connection =>
      have recalls : broker.Recalls client (.resumeSession client connection) :=
        ⟨_, by rw [performed]; rfl, rfl⟩
      obtain ⟨onto, handedTo⟩ := handedTo_of_recalls consistent sound recalls found
        (fun filter => by rw [reached]; rfl) handed
      refine ⟨client, ?_, handedTo⟩
      rw [reached, Registry.connection?_eq, get?_withBound, if_pos rfl, onto]
      rfl
  | @connects request connection generated client present _ _ effective valid resumed binds =>
      obtain ⟨later, link, _, _, reads⟩ := get?_of_binds request binds
      cases present with
      | false =>
          obtain ⟨_, _, rfl⟩ := binds
          cases handed
      | true =>
          obtain ⟨session, found, _, rfl, rfl⟩ := binds
          have recalls : broker.Recalls client (.connect request connection generated) :=
            ⟨.connected ⟨client, _, true⟩, by rw [performed]; rfl, rfl, rfl⟩
          obtain ⟨onto, handedTo⟩ := handedTo_of_recalls consistent sound recalls found
            (fun filter => by rw [reached, subscriptions_enterRequest]; rfl) handed
          refine ⟨client, ?_, handedTo⟩
          rw [reached, Registry.connection?_eq, reads, if_pos rfl, onto, Option.map_some, link]
          rfl
  | @releasesWithWill released token ending session will _ _ current found left publishes =>
      obtain ⟨subscription, bound, live, applies, sent⟩ :=
        routed_of_publishes (consistent.tornDown released found) publishes handed
      rw [← reached] at bound live
      refine ⟨subscription.client, bound, Or.inl ⟨subscription, rfl, live, Or.inl
        ⟨will.topic, will.payload, will.qos, ?_, applies, sent⟩⟩⟩
      refine ⟨.flag true, by rw [performed]; rfl, will, ?_, rfl, rfl, rfl⟩
      rw [found]
      exact left
  | _ => cases handed

end Handed

section Run

variable (settings : BrokerSettings) (history : List Operation)

/-- Every message that waits has been published to a subscription of the client's session. -/
theorem queued_of_waiting
    (waits : message ∈ ((start settings).run history).registry.waiting client) :
    Queued settings history client message ∧ Qos.atMostOnce < message.qos := by
  induction history using List.reverseRecOn with
  | nil =>
      have nothing : (start settings).registry.waiting client = [] := by
        simp [start, Registry.waiting]
      rw [run, List.foldl_nil, nothing] at waits
      cases waits
  | append_singleton earlier operation ih =>
      have consistent := ((consistent_start settings).run earlier).consistent
      rw [← run_next] at waits
      obtain ⟨away, offered | ⟨before, within⟩⟩ := mem_waiting_next consistent waits
      · obtain ⟨survives, subscription, own, live, routes⟩ :=
          routes_of_mem_offersTo consistent away offered
        rw [run_next, ← own, granted?_run_iff_inPlace] at live
        exact ⟨⟨earlier, operation, [], rfl, ⟨subscription, own, live, routes⟩, trivial⟩, survives⟩
      -- Nothing waits for a client whose session has just begun or ended, so this one goes on.
      · obtain ⟨⟨first, publication, later, rfl, routed, lasts⟩, survives⟩ := ih before
        refine ⟨⟨first, publication, later ++ [operation], by simp, routed, ?_⟩, survives⟩
        simp only [run_eq_foldl, List.foldl_append, List.foldl_cons, List.foldl_nil, never_append]
          at lasts within ⊢
        exact ⟨lasts, within, trivial⟩

end Run

end TopicBroker.Broker

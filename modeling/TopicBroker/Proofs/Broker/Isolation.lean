import TopicBroker.Proofs.Broker.Absence
import TopicBroker.Proofs.Broker.Replays

/-!
# Operations on one client

Clients share the nodes of the subscription trie, and every client has a place
in the registry.  Still an operation that is directed at one client is seen by
no other client: it leaves their sessions and subscriptions as they were, it
leaves what is retained, and if it hands anything over, then to the connection
that its client is bound to afterwards.  Messages that are published are the
only way from one client to another, so the release of a session counts here
only if no will is published.
-/

namespace TopicBroker.Broker

/-- The operation is about this client only.  A request that leaves the id of its client open is
directed at the client with the generated id. -/
def DirectedAt (client : String) (broker : Broker) : Operation → Prop
  | .subscribe _ subscriber _ => subscriber = client
  | .unsubscribe _ subscriber => subscriber = client
  | .unsubscribeAll subscriber => subscriber = client
  | .publish .. => False
  | .retain .. => False
  | .createSession created _ => created = client
  | .resumeSession resumed _ => resumed = client
  | .suspendSession suspended => suspended = client
  | .removeSession removed => removed = client
  | .connect request _ generated =>
    (if request.client = "" then generated else request.client) = client
  | .release released token ending =>
    released = client ∧ broker.publishedWill? released token ending = none

/-- Nothing changes for any other client, and nothing is handed to any other connection than the one
that the client is bound to afterwards. -/
structure TouchesOnly (broker : Broker) (client : String) (after : Broker)
    (deliveries : List Delivery) : Prop where
  sessions : ∀ other, other ≠ client → after.registry.get? other = broker.registry.get? other
  filters : ∀ other, other ≠ client → ∀ entry,
    entry ∈ after.subscriptions.filtersOf other ↔ entry ∈ broker.subscriptions.filtersOf other
  retained : after.retained = broker.retained
  deliveries : ∀ delivery ∈ deliveries,
    after.registry.connection? client = some delivery.connection

variable {broker after : Broker} {client : String} {operation : Operation} {reply : Reply}
  {deliveries : List Delivery}

theorem effectiveClient_eq {request : ConnectRequest} {generated effective : String}
    (accepted : effectiveClient request generated = .ok effective) :
    effective = if request.client = "" then generated else request.client := by
  unfold effectiveClient at accepted
  split_ifs at accepted ⊢
  · exact (Except.ok.inj accepted).symm
  · exact (Except.ok.inj accepted).symm

/-- What a client is handed when it comes back goes to the connection that it comes back on. -/
theorem connection_of_mem_handed {connection : ConnectionId} {messages : List Publish}
    {delivery : Delivery}
    (handed : delivery ∈ broker.replayedTo client connection ++ messages.map (⟨connection, ·⟩)) :
    delivery.connection = connection := by
  rcases List.mem_append.mp handed with replayed | waited
  · exact (of_mem_replayedTo replayed).1
  · obtain ⟨message, _, rfl⟩ := List.mem_map.mp waited
    rfl

theorem Effect.touchesOnly (consistent : broker.Consistent) (owned : broker.Owned)
    (afterSound : after.subscriptions.Sound)
    (effect : broker.Effect operation reply after deliveries)
    (directed : broker.DirectedAt client operation) :
    broker.TouchesOnly client after deliveries := by
  have filters {other : String}
      (same : ∀ filter, after.subscriptions.granted? filter other =
        broker.subscriptions.granted? filter other) :=
    (Subscriptions.mem_filtersOf_congr consistent.subscriptions afterSound).mpr same
  cases effect with
  | @subscribes filter subscriber qos granted session subscriptions found accepted =>
      obtain rfl : subscriber = client := directed
      refine ⟨fun _ _ => rfl, fun other different => filters fun name => ?_, rfl,
        fun delivery handed => ?_⟩
      · rw [Subscriptions.granted?_subscribe accepted, if_neg fun same => different same.2]
      · rw [Registry.connection?_of_get? found]
        cases here : session.connection? with
        | none =>
            rw [here] at handed
            cases handed
        | some connection =>
            rw [here] at handed
            rw [(of_mem_replayed handed).1]
  | @unsubscribes filter subscriber removed subscriptions accepted =>
      obtain rfl : subscriber = client := directed
      refine ⟨fun _ _ => rfl, fun other different => filters fun name => ?_, rfl,
        by simp⟩
      rw [Subscriptions.granted?_unsubscribe accepted, if_neg fun same => different same.2]
  | unsubscribesAll subscriber =>
      obtain rfl : subscriber = client := directed
      refine ⟨fun _ _ => rfl, fun other different => filters fun name => ?_, rfl,
        by simp⟩
      rw [Subscriptions.granted?_unsubscribeAll, if_neg different]
  | publishes => exact directed.elim
  | retains => exact directed.elim
  | @creates created notHere connection =>
      obtain rfl : created = client := directed
      refine ⟨fun other different => ?_, fun other different => filters fun name => ?_, rfl,
        by simp⟩
      · rw [get?_withFresh, if_neg different]
      · rw [granted?_withFresh owned notHere, if_neg different]
  | @resumes resumed session found away connection =>
      obtain rfl : resumed = client := directed
      refine ⟨fun other different => ?_, fun other different => filters fun name => rfl, rfl,
        fun delivery handed => ?_⟩
      · rw [get?_withBound, if_neg different]
      · rw [connection_of_mem_handed handed, Registry.connection?_eq, get?_withBound, if_pos rfl]
        rfl
  | @suspends suspended session found =>
      obtain rfl : suspended = client := directed
      refine ⟨fun other different => ?_, fun other different => filters fun name => rfl, rfl,
        by simp⟩
      rw [get?_withUnbound, if_neg different]
  | @removes removed session found =>
      obtain rfl : removed = client := directed
      refine ⟨fun other different => ?_, fun other different => filters fun name => ?_, rfl,
        by simp⟩
      · rw [get?_without, if_neg different]
      · rw [granted?_without, if_neg different]
  | @connects request connection generated connecting present bound _ effective valid resumed
      binds =>
      obtain rfl : connecting = client := (effectiveClient_eq effective).trans directed
      obtain ⟨session, link, _, _, reads⟩ := get?_of_binds request binds
      refine ⟨fun other different => ?_, fun other different => filters fun name => ?_, ?_,
        fun delivery handed => ?_⟩
      · rw [reads, if_neg different]
      · rw [granted?_of_binds owned binds, if_neg fun same => different same.1.symm]
      · exact (retained_enterRequest ..).trans (retained_of_binds binds)
      · rw [Registry.connection?_eq, reads, if_pos rfl, Option.map_some, link]
        cases present with
        | false =>
            obtain ⟨_, _, rfl⟩ := binds
            cases handed
        | true =>
            obtain ⟨_, _, _, _, rfl⟩ := binds
            rw [connection_of_mem_handed handed]
            rfl
  | releasesLate => exact ⟨fun _ _ => rfl, fun _ _ _ => Iff.rfl, rfl, by simp⟩
  | @releases released token ending session current found silent =>
      obtain ⟨rfl, _⟩ := directed
      refine ⟨fun other different => ?_, fun other different => filters fun name => ?_,
        retained_tornDown .., by simp⟩
      · rw [get?_tornDown, if_neg different]
      · rw [granted?_tornDown found, if_neg fun same => different same.1.symm]
  | @releasesWithWill released token ending session will _ _ current found left publishes =>
      obtain ⟨_, silent⟩ := directed
      rw [publishedWill?, if_pos current, found, Option.bind_some, left] at silent
      cases silent

/-- An operation that is directed at one client touches this client only, whether it is refused or
not. -/
theorem touchesOnly_of_directed (reachable : broker.Reachable)
    (directed : broker.DirectedAt client operation) :
    broker.TouchesOnly client (broker.perform operation).broker
      (broker.perform operation).deliveries := by
  have consistent := consistent_of_reachable reachable
  have afterSound := (consistent.next operation).subscriptions
  obtain ⟨settings, history, rfl⟩ := reachable
  have owned := (owned_start settings).run (consistent_start settings) history
  rcases settles_effect consistent operation with
    ⟨error, refused, _⟩ | ⟨reply, after, deliveries, performed, effect⟩
  · rw [refused]
    exact ⟨fun _ _ => rfl, fun _ _ _ => Iff.rfl, rfl, by simp [refuse]⟩
  · rw [next_of_accept performed] at afterSound
    rw [performed]
    exact effect.touchesOnly consistent owned afterSound directed

/-- Two clients that are away share nodes of the trie.  One of them comes back and is handed what is
retained and what has waited, and with its session gone the other one still has all it had. -/
theorem touchesOnly_of_return_and_removal :
    let broker := (start default).run [.createSession "ann" ⟨0⟩, .createSession "bob" ⟨1⟩,
      .subscribe "a/+" "ann" .exactlyOnce, .subscribe "a/+" "bob" .atLeastOnce,
      .subscribe "a/+/c" "bob" .exactlyOnce, .suspendSession "ann", .suspendSession "bob",
      .publish "a/b" [1] .exactlyOnce true]
    let comeback : Operation := .connect ⟨"ann", false, none⟩ ⟨2⟩ ""
    let removal : Operation := .removeSession "ann"
    broker.DirectedAt "ann" comeback ∧
      (broker.perform comeback).deliveries = [⟨⟨2⟩, .first "a/b" [1] .exactlyOnce true⟩,
        ⟨⟨2⟩, .first "a/b" [1] .exactlyOnce false⟩] ∧
      broker.TouchesOnly "ann" (broker.perform comeback).broker
        (broker.perform comeback).deliveries ∧
    broker.DirectedAt "ann" removal ∧
      (broker.perform removal).broker.subscriptions.filtersOf "bob" =
        [("a/+", .atLeastOnce), ("a/+/c", .exactlyOnce)] ∧
      broker.TouchesOnly "ann" (broker.perform removal).broker
        (broker.perform removal).deliveries := by
  intro broker comeback removal
  have reachable : broker.Reachable := ⟨default, _, rfl⟩
  exact ⟨rfl, by decide +kernel, touchesOnly_of_directed reachable rfl, rfl, by decide +kernel,
    touchesOnly_of_directed reachable rfl⟩

end TopicBroker.Broker

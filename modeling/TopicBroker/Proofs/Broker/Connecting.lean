import TopicBroker.Proofs.Broker.Wills

/-!
# Connecting

What a request does depends on the session that is kept for its client.  A
client that is here is refused.  A client that is away comes back to its
session, with its subscriptions, unless the request wants a clean one.  In all
other cases a session begins, whatever an earlier one has left behind.

Either way the session that the client is in afterwards is known to the last
field: nothing waits in it, and its will and whether it is clean are those of
the request.
-/

namespace TopicBroker.Broker

/-- The session of a client that has just connected. -/
def connectedSession (broker : Broker) (client : String) (request : ConnectRequest)
    (connection : ConnectionId) : Session where
  client := client
  clean := request.clean
  will := request.will
  link := some ⟨broker.registry.nextToken, connection⟩
  backlog := .empty broker.settings.maxQueuedMessages

/-- The client is bound to the connection as its request says, and other clients notice nothing. -/
structure Admits (broker : Broker) (client : String) (request : ConnectRequest)
    (connection : ConnectionId) (present : Bool) (outcome : Outcome ConnectReply) : Prop where
  succeeds : outcome.result = .ok ⟨client, broker.registry.nextToken, present⟩
  binds : outcome.broker.registry.get? client =
    some (broker.connectedSession client request connection)
  current : outcome.broker.registry.isCurrent client broker.registry.nextToken = true
  leavesSessions : ∀ other, other ≠ client →
    outcome.broker.registry.get? other = broker.registry.get? other
  leavesSubscriptions : ∀ filter other, other ≠ client →
    outcome.broker.subscriptions.granted? filter other =
      broker.subscriptions.granted? filter other
  leavesRetained : outcome.broker.retained = broker.retained

/-- The three cases of connecting a client. -/
structure ConnectsByState (broker : Broker) (client : String) (request : ConnectRequest)
    (connection : ConnectionId) (outcome : Outcome ConnectReply) : Prop where
  here : broker.registry.hasActive client = true →
    outcome = broker.refuse (.session (.alreadyActive client))
  returns : broker.registry.hasPersisted client = true → request.clean = false →
    broker.Admits client request connection true outcome ∧
      outcome.broker.subscriptions = broker.subscriptions
  begins : broker.registry.hasActive client = false →
    ¬ (broker.registry.hasPersisted client = true ∧ request.clean = false) →
      broker.Admits client request connection false outcome ∧
        (∀ filter, outcome.broker.subscriptions.granted? filter client = none) ∧
          outcome.deliveries = []

variable {broker bound : Broker} {client : String} {request : ConnectRequest}
  {connection : ConnectionId} {present : Bool} {deliveries : List Delivery}

section Bound

variable (consistent : broker.Consistent)
  (binds : broker.Binds client connection present bound deliveries)
include consistent binds

theorem get?_bound :
    ∃ session : Session, session.client = client ∧
      session.link = some ⟨broker.registry.nextToken, connection⟩ ∧
      session.backlog = .empty broker.settings.maxQueuedMessages ∧
      ∀ other, bound.registry.get? other =
        if other = client then some session else broker.registry.get? other := by
  cases present with
  | true =>
      obtain ⟨session, found, _, rfl, _⟩ := binds
      have sound := consistent.sessions client session found
      refine ⟨session.boundTo ⟨broker.registry.nextToken, connection⟩, sound.client, rfl, ?_,
        get?_withBound broker client session connection⟩
      exact congrArg (Backlog.mk · []) sound.capacity
  | false =>
      obtain ⟨_, rfl, _⟩ := binds
      refine ⟨.fresh client ⟨broker.registry.nextToken, connection⟩ broker.registry.capacity, rfl,
        rfl, ?_, get?_withFresh broker client connection⟩
      exact congrArg Backlog.empty consistent.capacity

theorem get?_connected (request : ConnectRequest) (other : String) :
    (bound.enterRequest client request).registry.get? other =
      if other = client then some (broker.connectedSession client request connection)
      else broker.registry.get? other := by
  obtain ⟨session, own, linked, nothingWaits, reads⟩ := get?_bound consistent binds
  rw [get?_enterRequest, reads, reads, if_pos rfl, Option.map_some]
  have same : ({ session with clean := request.clean, will := request.will } : Session) =
      broker.connectedSession client request connection := by
    simp only [connectedSession, own, linked, nothingWaits]
  rw [same]
  split
  · rfl
  · rfl

theorem admits_of_binds (owned : broker.Owned) :
    broker.Admits client request connection present
      ((bound.enterRequest client request).accept ⟨client, broker.registry.nextToken, present⟩
        deliveries) := by
  have reads := get?_connected consistent binds request
  have session := (reads client).trans (if_pos rfl)
  refine ⟨rfl, session, ?_, ?_, ?_, ?_⟩
  · exact Registry.isCurrent_iff.mpr ⟨_, _, session, rfl, rfl⟩
  · intro other different
    exact (reads other).trans (if_neg different)
  · intro filter other different
    refine (granted?_of_binds owned binds request filter other).trans (if_neg ?_)
    exact fun same => different same.1.symm
  · exact (retained_enterRequest client request).trans (retained_of_binds binds)

end Bound

theorem connectsByState (consistent : broker.Consistent) (owned : broker.Owned)
    {generated : String} (effective : effectiveClient request generated = .ok client)
    (validWill : broker.checkWill request.will = .ok ()) :
    broker.ConnectsByState client request connection
      (broker.connect request connection generated) := by
  -- A client that is not here is bound, and then its request is entered.
  have connects (notHere : broker.registry.hasActive client = false) (present : Bool)
      (keeps : (broker.registry.hasPersisted client && !request.clean) = present) :
      ∃ (bound : Broker) (deliveries : List Delivery),
        broker.Binds client connection present bound deliveries ∧
        broker.connect request connection generated = (bound.enterRequest client request).accept
          ⟨client, broker.registry.nextToken, present⟩ deliveries := by
    obtain ⟨bound, deliveries, accepted, binds⟩ := exists_binds client consistent connection notHere
      present fun isPresent => (Bool.and_eq_true_iff.mp (keeps.trans isPresent)).1
    refine ⟨bound, deliveries, binds, ?_⟩
    rw [connect_of_away request effective validWill notHere, keeps, accepted,
      Outcome.andThen_accept rfl, List.append_nil]
  refine ⟨connect_of_here request effective validWill, ?_, ?_⟩
  · intro kept notClean
    obtain ⟨session, found, away⟩ := Registry.hasPersisted_iff.mp kept
    have notHere := Registry.not_hasActive_of_away found away
    obtain ⟨bound, deliveries, binds, accepted⟩ := connects notHere true (by simp [kept, notClean])
    have resumed := binds
    obtain ⟨_, _, _, rfl, _⟩ := resumed
    rw [accepted]
    exact ⟨admits_of_binds consistent binds owned, subscriptions_enterRequest client request⟩
  · intro notHere anew
    obtain ⟨bound, deliveries, binds, accepted⟩ := connects notHere false (by simpa using anew)
    have created := binds
    obtain ⟨_, _, rfl⟩ := created
    rw [accepted]
    refine ⟨admits_of_binds consistent binds owned, fun filter => ?_, rfl⟩
    exact (granted?_of_binds owned binds request filter client).trans (if_pos ⟨rfl, rfl⟩)

/-- A request that passes the checks of its id and of its will is settled by the session that is kept
for its client, and by nothing else of the history.  If the client is bound, then under a token that
no operation has issued before. -/
theorem connects_by_state (settings : BrokerSettings) (history : List Operation)
    (request : ConnectRequest) (connection : ConnectionId) (generated client : String)
    (effective : effectiveClient request generated = .ok client)
    (validWill : ((start settings).run history).checkWill request.will = .ok ()) :
    let broker := (start settings).run history
    broker.ConnectsByState client request connection
        (broker.connect request connection generated) ∧
      ∀ earlier operation later other, history = earlier ++ operation :: later →
        ¬ ((start settings).run earlier).Issues other broker.registry.nextToken operation := by
  intro broker
  have consistent := ((consistent_start settings).run history).consistent
  have owned := (owned_start settings).run (consistent_start settings) history
  refine ⟨connectsByState consistent owned effective validWill, ?_⟩
  rintro earlier operation later other rfl
  exact not_issued_yet settings other

/-- A client that is away has left a subscription, a will and a message that waits, and its request
wants none of them. -/
theorem connects_by_state_despite_leftovers :
    let history : List Operation :=
      [.connect ⟨"ann", false, some ⟨"gone", [7], .atLeastOnce, false⟩⟩ ⟨0⟩ "",
        .subscribe "a/#" "ann" .atLeastOnce, .suspendSession "ann",
        .publish "a/b" [1] .atLeastOnce false]
    let broker := (start default).run history
    let request : ConnectRequest := ⟨"ann", true, none⟩
    effectiveClient request "" = .ok "ann" ∧ broker.checkWill request.will = .ok () ∧
      broker.registry.hasPersisted "ann" = true ∧
      broker.ConnectsByState "ann" request ⟨1⟩ (broker.connect request ⟨1⟩ "") ∧
      ∀ earlier operation later other, history = earlier ++ operation :: later →
        ¬ ((start default).run earlier).Issues other broker.registry.nextToken operation := by
  intro history broker request
  have effective : effectiveClient request "" = .ok "ann" := by decide
  have kept : broker.registry.hasPersisted "ann" = true := by decide +kernel
  exact ⟨effective, rfl, kept,
    connects_by_state default history request ⟨1⟩ "" "ann" effective rfl⟩

end TopicBroker.Broker

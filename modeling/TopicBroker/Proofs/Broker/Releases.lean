import TopicBroker.Proofs.Broker.Absence
import TopicBroker.Proofs.Broker.Wills

/-!
# Releasing a session

A session is released under the token of its binding.  Under any other token
nothing happens at all.  Otherwise the session is torn down first: it is removed
together with its subscriptions if it is clean, and else it is kept without its
connection and without its will.  If the connection was lost and there was a
will, this is then published on the broker that is left.  So the will goes to
other clients, and for a client that is kept it waits like any other message, as
far as there is room for messages.

A token serves for one release only.  Whatever is done afterwards, a further
release under the same token comes too late, whichever client asks for it.
-/

namespace TopicBroker.Broker

/-- The session of the client is torn down, and nothing else is changed. -/
structure TearsDown (broker : Broker) (client : String) (session : Session) (torn : Broker) :
    Prop where
  own : torn.registry.get? client =
    if session.clean then none else some { session with will := none, link := none }
  others : ∀ other, other ≠ client → torn.registry.get? other = broker.registry.get? other
  granted : ∀ filter other, torn.subscriptions.granted? filter other =
    if other = client ∧ session.clean = true then none
    else broker.subscriptions.granted? filter other
  subscriptions : session.clean = false → torn.subscriptions = broker.subscriptions
  retained : torn.retained = broker.retained
  settings : torn.settings = broker.settings

/-- The will of a client is published once its session is torn down.  Copies are handed over to
others only, and for the client itself they wait if its session is kept. -/
structure PublishesWill (torn : Broker) (client : String) (will : Will) (outcome : Outcome Bool) :
    Prop where
  published : torn.publish will.topic will.payload will.qos will.retain =
    outcome.broker.accept () outcome.deliveries
  elsewhere : ∀ delivery ∈ outcome.deliveries, ∃ other, other ≠ client ∧
    torn.registry.connection? other = some delivery.connection
  waits : torn.registry.hasPersisted client = true →
    outcome.broker.registry.waiting client =
      (awaited torn.subscriptions client will.topic will.payload will.qos).rtake
        torn.settings.maxQueuedMessages

/-- The session of the client is released under the token with this outcome and nothing more. -/
structure ReleasesExactly (broker : Broker) (client : String) (token : Token) (ending : Ending)
    (outcome : Outcome Bool) : Prop where
  answers : outcome.result = .ok true ∨ outcome.result = .ok false
  current : outcome.result = .ok true ↔ ∃ session link,
    broker.registry.get? client = some session ∧ session.link = some link ∧ link.token = token
  late : outcome.result = .ok false → outcome.broker = broker ∧ outcome.deliveries = []
  releases : outcome.result = .ok true → ∃ session torn,
    broker.registry.get? client = some session ∧ broker.TearsDown client session torn ∧
      match leftWill ending session with
      | none => outcome.broker = torn ∧ outcome.deliveries = []
      | some will => torn.PublishesWill client will outcome
  once : outcome.result = .ok true → ∀ later other again,
    ((outcome.broker.run later).release other token again).result = .ok false

variable {broker : Broker} {client : String} {token : Token} {ending : Ending} {session : Session}

section TornDown

theorem tearsDown_tornDown (found : broker.registry.get? client = some session) :
    broker.TearsDown client session (broker.tornDown client session) where
  own := (get?_tornDown broker client session client).trans (if_pos rfl)
  others other different := (get?_tornDown broker client session other).trans (if_neg different)
  granted filter other := by
    rw [granted?_tornDown found]
    by_cases same : other = client
    · simp [same, found]
    · simp [same, Ne.symm same]
  subscriptions notClean := by
    rw [tornDown, notClean]
    rfl
  retained := retained_tornDown client session
  settings := settings_tornDown broker client session

theorem connection?_tornDown (broker : Broker) (client : String) (session : Session) :
    (broker.tornDown client session).registry.connection? client = none := by
  rw [Registry.connection?_eq, get?_tornDown, if_pos rfl]
  split <;> rfl

theorem waiting_of_current (consistent : broker.Consistent)
    (current : broker.registry.isCurrent client token = true) :
    broker.registry.waiting client = [] := by
  obtain ⟨session, link, found, here, _⟩ := Registry.isCurrent_iff.mp current
  have sound := consistent.sessions client session found
  rw [Registry.waiting_of_get? found]
  exact sound.nothingWaits (by simp [Session.isActive, here])

theorem publishesWill_tornDown (consistent : broker.Consistent)
    (current : broker.registry.isCurrent client token = true)
    (found : broker.registry.get? client = some session) {will : Will}
    (left : leftWill ending session = some will) :
    (broker.tornDown client session).PublishesWill client will
      (broker.release client token ending) := by
  obtain ⟨after, deliveries, accepted, publishes⟩ := publish_tornDown consistent found left
  rw [release_of_will current found left accepted]
  refine ⟨accepted, fun delivery handed => ?_, fun kept => ?_⟩
  · change delivery ∈ deliveries at handed
    rw [publishes.deliveries, List.mem_filterMap] at handed
    obtain ⟨subscription, _, handed⟩ := handed
    obtain ⟨connection, bound, rfl⟩ := Option.map_eq_some_iff.mp handed
    refine ⟨subscription.client, ?_, bound⟩
    intro own
    rw [own, connection?_tornDown] at bound
    cases bound
  · have nothing : (broker.tornDown client session).registry.waiting client = [] :=
      (waiting_tornDown found kept).trans (waiting_of_current consistent current)
    have away := (hasPersisted_iff_of_publishes publishes).mpr kept
    have waits := waiting_of_publishes (consistent.tornDown client found) publishes away
    rw [nothing, List.nil_append] at waits
    exact waits

end TornDown

section Once

variable {operation : Operation}

/-- An operation binds one client at most. -/
theorem client_of_issues {other : String} {again : Token}
    (issues : broker.Issues client token operation) (also : broker.Issues other again operation) :
    client = other := by
  obtain ⟨reply, succeeds, issued⟩ := issues
  obtain ⟨answer, same, alsoIssued⟩ := also
  rw [succeeds] at same
  cases same
  split at issued
  · exact issued.1.symm.trans alsoIssued.1
  · exact issued.1.symm.trans alsoIssued.1
  · exact issued.1.symm.trans alsoIssued.1
  · exact issued.elim

theorem not_current_after_release (settings : BrokerSettings) (history later : List Operation)
    (released : (((start settings).run history).release client token ending).result = .ok true)
    (other : String) :
    ((start settings).run (history ++ .release client token ending :: later)).registry.isCurrent
      other token = false := by
  rw [← Bool.not_eq_true]
  intro current
  obtain ⟨earlier, binding, between, rfl, issues, _⟩ :=
    (token?_run settings history client token).mp
      (Registry.isCurrent_iff_token?.mp (isCurrent_of_release released))
  obtain ⟨first, again, rest, split, reissues, stays⟩ :=
    (token?_run settings _ other token).mp (Registry.isCurrent_iff_token?.mp current)
  rw [List.append_assoc, List.cons_append] at split
  -- The token was issued by one operation, so both clients are the same one.
  obtain ⟨rfl, rfl, rfl⟩ := issued_once split issues reissues
  obtain rfl := client_of_issues issues reissues
  -- But the client has been released since.
  rw [never_append] at stays
  apply stays.2.1
  refine ⟨.flag true, ?_, rfl⟩
  rw [run_eq_foldl, List.foldl_append, List.foldl_cons] at released
  rw [perform]
  exact congrArg (Except.map Reply.flag) released

end Once

section Exact

theorem result_release (consistent : broker.Consistent) (client : String) (token : Token)
    (ending : Ending) :
    (broker.release client token ending).result = .ok (broker.registry.isCurrent client token) := by
  rcases settles_release client consistent token ending with
    ⟨error, _, never⟩ | ⟨flag, after, deliveries, accepted, rfl, _⟩
  · exact never.elim
  · rw [accepted]
    rfl

theorem tearsDown_of_release (consistent : broker.Consistent)
    (current : broker.registry.isCurrent client token = true) (ending : Ending) :
    ∃ session torn, broker.registry.get? client = some session ∧
      broker.TearsDown client session torn ∧
      match leftWill ending session with
      | none => (broker.release client token ending).broker = torn ∧
          (broker.release client token ending).deliveries = []
      | some will => torn.PublishesWill client will (broker.release client token ending) := by
  obtain ⟨session, link, found, _, _⟩ := Registry.isCurrent_iff.mp current
  refine ⟨session, broker.tornDown client session, found, tearsDown_tornDown found, ?_⟩
  cases left : leftWill ending session with
  | none =>
      rw [release_of_silent current found left]
      exact ⟨rfl, rfl⟩
  | some will => exact publishesWill_tornDown consistent current found left

/-- Whatever has happened before, a release is exact. -/
theorem release_exact (settings : BrokerSettings) (history : List Operation) (client : String)
    (token : Token) (ending : Ending) :
    ((start settings).run history).ReleasesExactly client token ending
      (((start settings).run history).release client token ending) := by
  have consistent := ((consistent_start settings).run history).consistent
  have answer := result_release consistent client token ending
  refine ⟨?_, ?_, fun stale => ?_, fun released => ?_, fun released later other again => ?_⟩
  · rw [answer, Except.ok.injEq, Except.ok.injEq]
    exact Bool.eq_false_or_eq_true _
  · rw [answer, Except.ok.injEq]
    exact Registry.isCurrent_iff
  · rw [answer, Except.ok.injEq] at stale
    rw [release_of_stale client stale]
    exact ⟨rfl, rfl⟩
  · exact tearsDown_of_release consistent (isCurrent_of_release released) ending
  · have stale := not_current_after_release settings history later released other
    rw [run_append] at stale
    exact congrArg Outcome.result (release_of_stale other stale again)

/-- A will that was left for the client itself is lost if no message may wait, and it reaches the
connection that was released if another client shares this connection. -/
theorem lost_or_returned_will :
    let will : Will := ⟨"gone", [7], .atLeastOnce, false⟩
    let settings : BrokerSettings := ⟨.exactlyOnce, true, 0, 0, 1024⟩
    let alone := (start settings).run [.connect ⟨"ann", false, some will⟩ ⟨0⟩ "",
      .subscribe "gone" "ann" .atLeastOnce]
    let kept := (alone.release "ann" ⟨1⟩ .connectionLost).broker
    let shared := (start default).run [.createSession "bob" ⟨0⟩,
      .subscribe "gone" "bob" .atLeastOnce, .connect ⟨"ann", true, some will⟩ ⟨0⟩ ""]
    ((alone.release "ann" ⟨1⟩ .connectionLost).result = .ok true ∧
      kept.registry.hasPersisted "ann" = true ∧
      kept.subscriptions.granted? "gone" "ann" = some .atLeastOnce ∧
      kept.registry.waiting "ann" = []) ∧
    shared.registry.connection? "ann" = some ⟨0⟩ ∧
      (shared.release "ann" ⟨2⟩ .connectionLost).deliveries =
        [⟨⟨0⟩, .first "gone" [7] .atLeastOnce false⟩] := by
  decide +kernel

end Exact

end TopicBroker.Broker

import TopicBroker.Proofs.Broker.Histories

/-!
# What is refused

Whether an operation is refused, and for which reason, can be told from what it
asks, from the limit on levels, and from which clients are here or away.
Nothing that has been stored before is ever the reason: not a filter, not a
topic that retains a message, and not a will.
-/

namespace TopicBroker

namespace Operation

/-- The refusal of a text that has to be a topic name. -/
def nameRefusal? (maxLevels : Nat) (topic : String) : Option BrokerError :=
  (nameFault? maxLevels topic).map fun fault => .topic (.invalidName fault)

/-- The refusal of a text that has to be a topic filter. -/
def filterRefusal? (maxLevels : Nat) (filter : String) : Option BrokerError :=
  (filterFault? maxLevels filter).map fun fault => .topic (.invalidFilter fault)

/-- The refusal of a will that could not be published. -/
def willRefusal? (maxLevels : Nat) (will : Option Will) : Option BrokerError :=
  will.bind fun left => nameRefusal? maxLevels left.topic

/-- The refusal of a client that has to have a session. -/
def absentRefusal? (state? : String → Option SessionState) (client : String) :
    Option BrokerError :=
  if state? client = none then some (.session (.unknownClient client)) else none

/-- The refusal of a client that must not be here. -/
def hereRefusal? (state? : String → Option SessionState) (client : String) : Option BrokerError :=
  if state? client = some .active then some (.session (.alreadyActive client)) else none

/-- Why the operation is refused under this limit on levels, with clients in these states. -/
def refusal? (maxLevels : Nat) (state? : String → Option SessionState) :
    Operation → Option BrokerError
  | .subscribe filter client _ =>
    (absentRefusal? state? client).or (filterRefusal? maxLevels filter)
  | .unsubscribe filter _ => filterRefusal? maxLevels filter
  | .unsubscribeAll _ => none
  | .publish topic _ _ _ => nameRefusal? maxLevels topic
  | .retain topic _ _ => nameRefusal? maxLevels topic
  | .createSession client _ => hereRefusal? state? client
  | .resumeSession client _ => (absentRefusal? state? client).or (hereRefusal? state? client)
  | .suspendSession client => absentRefusal? state? client
  | .removeSession client => absentRefusal? state? client
  | .connect request _ generated =>
    if request.client = "" ∧ request.clean = false then some .clientIdRejected
    else
      (willRefusal? maxLevels request.will).or
        (hereRefusal? state? (if request.client = "" then generated else request.client))
  | .release _ _ _ => none

end Operation

/-- If the reasons of a refusal are those of `refusal`, and nothing is accepted that has one, then
`refusal` decides. -/
theorem Outcome.Settles.error_iff {α β : Type} {outcome : Outcome α} {broker : Broker}
    {Refused : BrokerError → Prop} {Accepted : α → Broker → List Delivery → Prop}
    {refusal : Option BrokerError} (settles : outcome.Settles broker Refused Accepted)
    (refused : ∀ error, Refused error → refusal = some error)
    (accepted : ∀ answer after deliveries, Accepted answer after deliveries → refusal = none)
    (change : α → β) (error : BrokerError) :
    (outcome.map change).result = .error error ↔ refusal = some error := by
  rcases settles with ⟨reason, rfl, isReason⟩ | ⟨answer, after, deliveries, rfl, effect⟩
  · rw [refused reason isReason]
    exact ⟨fun same => congrArg some (Except.error.inj same), fun same =>
      congrArg Except.error (Option.some.inj same)⟩
  · rw [accepted answer after deliveries effect]
    constructor
    · intro same
      cases same
    · intro same
      cases same

namespace Broker

open Operation

variable {broker : Broker}

/-- What is refused in this state, and three cases in which nothing that is stored stands in the
way. -/
structure RefusesExactly (broker : Broker) : Prop where
  exactly : ∀ operation error, (broker.perform operation).result = .error error ↔
    operation.refusal? broker.settings.maxTopicLevels broker.registry.state? = some error
  resumes : ∀ client connection, broker.registry.hasPersisted client = true →
    ∃ token, (broker.resumeSession client connection).result = .ok token
  subscribes : ∀ filter client qos, broker.registry.state? client ≠ none →
    filterFault? broker.settings.maxTopicLevels filter = none →
      ∃ granted, (broker.subscribe filter client qos).result = .ok granted
  releases : ∀ client token ending,
    ∃ flag, (broker.release client token ending).result = .ok flag

section Reasons

variable {client : String} {session : Session} {maxLevels : Nat}

theorem absentRefusal?_of_missing (missing : broker.registry.get? client = none) :
    absentRefusal? broker.registry.state? client = some (.session (.unknownClient client)) := by
  simp [absentRefusal?, Registry.state?, missing]

theorem absentRefusal?_of_found (found : broker.registry.get? client = some session) :
    absentRefusal? broker.registry.state? client = none := by
  simp [absentRefusal?, Registry.state?, found]

theorem hereRefusal?_of_here (here : broker.registry.hasActive client = true) :
    hereRefusal? broker.registry.state? client = some (.session (.alreadyActive client)) := by
  simpa [hereRefusal?, Registry.hasActive] using here

theorem hereRefusal?_of_not_here (notHere : broker.registry.hasActive client = false) :
    hereRefusal? broker.registry.state? client = none := by
  simpa [hereRefusal?, Registry.hasActive] using notHere

theorem nameRefusal?_of_faulty {topic : String} {fault : NameFault}
    (faulty : nameFault? maxLevels topic = some fault) :
    nameRefusal? maxLevels topic = some (.topic (.invalidName fault)) := by
  rw [nameRefusal?, faulty]
  rfl

theorem nameRefusal?_of_valid {topic : String} (valid : nameFault? maxLevels topic = none) :
    nameRefusal? maxLevels topic = none := by
  rw [nameRefusal?, valid]
  rfl

theorem filterRefusal?_of_faulty {filter : String} {fault : FilterFault}
    (faulty : filterFault? maxLevels filter = some fault) :
    filterRefusal? maxLevels filter = some (.topic (.invalidFilter fault)) := by
  rw [filterRefusal?, faulty]
  rfl

theorem filterRefusal?_of_valid {filter : String} (valid : filterFault? maxLevels filter = none) :
    filterRefusal? maxLevels filter = none := by
  rw [filterRefusal?, valid]
  rfl

theorem willRefusal?_of_faulty {will : Option Will} {left : Will} {fault : NameFault}
    (leaves : will = some left) (faulty : nameFault? maxLevels left.topic = some fault) :
    willRefusal? maxLevels will = some (.topic (.invalidName fault)) := by
  rw [leaves]
  exact nameRefusal?_of_faulty faulty

theorem willRefusal?_of_valid {will : Option Will}
    (valid : ∀ left, will = some left → nameFault? maxLevels left.topic = none) :
    willRefusal? maxLevels will = none := by
  apply Option.bind_eq_none_iff.mpr
  intro left leaves
  exact nameRefusal?_of_valid (valid left leaves)

variable {request : ConnectRequest} {connection : ConnectionId} {generated : String}
  {state? : String → Option SessionState}

theorem connectRefusal?_of_error {error : BrokerError}
    (rejected : effectiveClient request generated = .error error) :
    refusal? maxLevels state? (.connect request connection generated) = some error := by
  unfold effectiveClient at rejected
  split at rejected
  case isTrue empty =>
    split at rejected
    case isTrue => cases rejected
    case isFalse notClean =>
      cases rejected
      simp [refusal?, empty, notClean]
  case isFalse => cases rejected

theorem connectRefusal?_of_ok (effective : effectiveClient request generated = .ok client) :
    refusal? maxLevels state? (.connect request connection generated) =
      (willRefusal? maxLevels request.will).or (hereRefusal? state? client) := by
  unfold effectiveClient at effective
  split at effective
  case isTrue empty =>
    split at effective
    case isTrue clean =>
      cases effective
      simp [refusal?, empty, clean]
    case isFalse => cases effective
  case isFalse named =>
    cases effective
    simp [refusal?, named]

theorem not_hasActive_of_binds {present : Bool} {bound : Broker} {deliveries : List Delivery}
    (binds : broker.Binds client connection present bound deliveries) :
    broker.registry.hasActive client = false := by
  cases present with
  | true =>
      obtain ⟨session, found, away, _⟩ := binds
      exact Registry.not_hasActive_of_away found away
  | false => exact binds.1

end Reasons

theorem perform_error_iff (consistent : broker.Consistent) (operation : Operation)
    (error : BrokerError) :
    (broker.perform operation).result = .error error ↔
      operation.refusal? broker.settings.maxTopicLevels broker.registry.state? = some error := by
  cases operation with
  | subscribe filter client qos =>
      apply (settles_subscribe consistent filter client qos).error_iff
      · rintro error (⟨missing, rfl⟩ | ⟨there, fault, faulty, rfl⟩)
        · rw [refusal?, absentRefusal?_of_missing missing]
          rfl
        · obtain ⟨session, found⟩ := Option.ne_none_iff_exists'.mp there
          rw [refusal?, absentRefusal?_of_found found, filterRefusal?_of_faulty faulty]
          rfl
      · rintro granted after deliveries ⟨session, subscriptions, found, accepted, _⟩
        have valid := (Subscriptions.revises_subscribe accepted).1
        rw [consistent.filterLevels] at valid
        rw [refusal?, absentRefusal?_of_found found, filterRefusal?_of_valid valid]
        rfl
  | unsubscribe filter client =>
      apply (settles_unsubscribe consistent filter client).error_iff
      · rintro error ⟨fault, faulty, rfl⟩
        exact filterRefusal?_of_faulty faulty
      · rintro removed after deliveries ⟨subscriptions, accepted, _⟩
        have valid := (Subscriptions.revises_unsubscribe accepted).1
        rw [consistent.filterLevels] at valid
        exact filterRefusal?_of_valid valid
  | unsubscribeAll client =>
      apply (settles_unsubscribeAll broker client).error_iff
      · rintro error ⟨⟩
      · exact fun _ _ _ _ => rfl
  | publish topic payload qos retain =>
      apply (settles_publish consistent topic payload qos retain).error_iff
      · rintro error ⟨fault, faulty, rfl⟩
        exact nameRefusal?_of_faulty faulty
      · intro _ after deliveries publishes
        exact nameRefusal?_of_valid publishes.valid
  | retain topic payload qos =>
      apply (settles_retain consistent topic payload qos).error_iff
      · rintro error ⟨fault, faulty, rfl⟩
        exact nameRefusal?_of_faulty faulty
      · rintro _ after deliveries ⟨valid, _⟩
        exact nameRefusal?_of_valid valid
  | createSession client connection =>
      apply (settles_createSession broker client connection).error_iff
      · rintro error ⟨here, rfl⟩
        exact hereRefusal?_of_here here
      · rintro token after deliveries ⟨notHere, _⟩
        exact hereRefusal?_of_not_here notHere
  | resumeSession client connection =>
      apply (settles_resumeSession client connection consistent).error_iff
      · rintro error (⟨missing, rfl⟩ | ⟨here, rfl⟩)
        · rw [refusal?, absentRefusal?_of_missing missing]
          rfl
        · obtain ⟨session, found, _⟩ := Registry.hasActive_iff.mp here
          rw [refusal?, absentRefusal?_of_found found, hereRefusal?_of_here here]
          rfl
      · rintro token after deliveries ⟨session, found, away, _⟩
        have notHere := Registry.not_hasActive_of_away found away
        rw [refusal?, absentRefusal?_of_found found, hereRefusal?_of_not_here notHere]
        rfl
  | suspendSession client =>
      apply (settles_suspendSession broker client).error_iff
      · rintro error ⟨missing, rfl⟩
        exact absentRefusal?_of_missing missing
      · rintro _ after deliveries ⟨session, found, _⟩
        exact absentRefusal?_of_found found
  | removeSession client =>
      apply (settles_removeSession broker client).error_iff
      · rintro error ⟨missing, rfl⟩
        exact absentRefusal?_of_missing missing
      · rintro _ after deliveries ⟨session, found, _⟩
        exact absentRefusal?_of_found found
  | connect request connection generated =>
      apply (settles_connect request consistent connection generated).error_iff
      · rintro error (rejected | ⟨client, effective, refused⟩)
        · exact connectRefusal?_of_error rejected
        · rw [connectRefusal?_of_ok effective]
          rcases refused with ⟨will, fault, left, faulty, rfl⟩ | ⟨valid, here, rfl⟩
          · rw [willRefusal?_of_faulty left faulty]
            rfl
          · rw [willRefusal?_of_valid valid, hereRefusal?_of_here here]
            rfl
      · rintro reply after deliveries ⟨bound, effective, valid, _, present, binds, _⟩
        have notHere := not_hasActive_of_binds binds
        rw [connectRefusal?_of_ok effective, willRefusal?_of_valid valid,
          hereRefusal?_of_not_here notHere]
        rfl
  | release client token ending =>
      apply (settles_release client consistent token ending).error_iff
      · rintro error ⟨⟩
      · exact fun _ _ _ _ => rfl

theorem exists_reply_of_not_refused {α : Type} (consistent : broker.Consistent)
    (operation : Operation) {outcome : Outcome α} {answer : α → Reply}
    (asked : broker.perform operation = outcome.map answer)
    (notRefused : operation.refusal? broker.settings.maxTopicLevels broker.registry.state? = none) :
    ∃ value, outcome.result = .ok value := by
  cases result : outcome.result with
  | ok value => exact ⟨value, rfl⟩
  | error error =>
      have failed : (broker.perform operation).result = .error error := by
        rw [asked, Outcome.map, result]
        rfl
      rw [(perform_error_iff consistent operation error).mp failed] at notRefused
      cases notRefused

/-- Operations are refused for the reasons that `refusal?` gives, and for no others. -/
theorem refuses_exactly (settings : BrokerSettings) (history : List Operation) :
    ((start settings).run history).RefusesExactly := by
  have consistent := ((consistent_start settings).run history).consistent
  refine ⟨perform_error_iff consistent, ?_, ?_, ?_⟩
  · intro client connection kept
    apply exists_reply_of_not_refused consistent (.resumeSession client connection) rfl
    obtain ⟨session, found, away⟩ := Registry.hasPersisted_iff.mp kept
    have notHere := Registry.not_hasActive_of_away found away
    rw [refusal?, absentRefusal?_of_found found, hereRefusal?_of_not_here notHere]
    rfl
  · intro filter client qos there valid
    apply exists_reply_of_not_refused consistent (.subscribe filter client qos) rfl
    rw [refusal?, absentRefusal?, if_neg there, filterRefusal?_of_valid valid]
    rfl
  · intro client token ending
    apply exists_reply_of_not_refused consistent (.release client token ending) rfl
    rfl

end Broker

end TopicBroker

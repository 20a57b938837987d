import TopicBroker.Proofs.Broker.Histories
import TopicBroker.Proofs.Since

/-!
# How long sessions and subscriptions last

A session begins when its client is given a fresh one, and it ends when it is
removed or released as a clean one.  A subscription lasts until it is made
anew or withdrawn, but no longer than the session in which it was made.  So
the subscriptions in place after a history are those that `InPlace` finds in
the history alone.  This rests on an invariant: only clients with a session
have subscriptions, and hence a session that begins finds none.
-/

namespace TopicBroker.Broker

/-- The broker after an operation, whether it is refused or not. -/
def next (broker : Broker) (operation : Operation) : Broker := (broker.perform operation).broker

/-- The operation is not refused, and it is of this kind, judged by what it asks and what it is
answered. -/
def Does (broker : Broker) (kind : Operation → Reply → Prop) (operation : Operation) : Prop :=
  ∃ reply, (broker.perform operation).result = .ok reply ∧ kind operation reply

/-- The operation gives the client a fresh session. -/
def Begins (client : String) (broker : Broker) : Operation → Prop :=
  broker.Does fun
    | .createSession created _, _ => created = client
    | .connect .., .connected reply => reply.client = client ∧ reply.sessionPresent = false
    | _, _ => False

/-- The operation removes the session of the client, or releases it while it is clean. -/
def Ends (client : String) (broker : Broker) : Operation → Prop :=
  broker.Does fun
    | .removeSession removed, _ => removed = client
    | .release released _ _, .flag true =>
      released = client ∧ (broker.registry.get? client).map Session.clean = some true
    | _, _ => False

/-- The operation makes this subscription. -/
def Makes (subscription : Subscription) (broker : Broker) : Operation → Prop :=
  broker.Does fun
    | .subscribe filter client _, .granted granted => ⟨filter, client, granted⟩ = subscription
    | _, _ => False

/-- The operation makes the subscription of the client to the filter anew, or withdraws it. -/
def Withdraws (filter client : String) (broker : Broker) : Operation → Prop :=
  broker.Does fun
    | .subscribe changed changing _, _ => changed = filter ∧ changing = client
    | .unsubscribe changed changing, _ => changed = filter ∧ changing = client
    | .unsubscribeAll changing, _ => changing = client
    | _, _ => False

/-- A session of the client begins or ends. -/
def Bounds (client : String) (broker : Broker) (operation : Operation) : Prop :=
  broker.Begins client operation ∨ broker.Ends client operation

/-- Only clients with a session have subscriptions. -/
def Owned (broker : Broker) : Prop :=
  ∀ filter client granted, broker.subscriptions.granted? filter client = some granted →
    (broker.registry.get? client).isSome = true

variable {broker : Broker}

section Step

theorem Consistent.next (consistent : broker.Consistent) (operation : Operation) :
    (broker.next operation).Consistent :=
  (consistent.perform operation).consistent

theorem next_of_accept {operation : Operation} {reply : Reply} {after : Broker}
    {deliveries : List Delivery}
    (accepted : broker.perform operation = after.accept reply deliveries) :
    broker.next operation = after := by
  rw [next, accepted]
  rfl

theorem does_or {first second : Operation → Reply → Prop} {operation : Operation} :
    broker.Does (fun operation reply => first operation reply ∨ second operation reply) operation ↔
      broker.Does first operation ∨ broker.Does second operation := by
  simp [Does, and_or_left, exists_or]

theorem does_iff_of_accept {kind : Operation → Reply → Prop} {operation : Operation} {reply : Reply}
    {after : Broker} {deliveries : List Delivery}
    (accepted : broker.perform operation = after.accept reply deliveries) :
    broker.Does kind operation ↔ kind operation reply := by
  simp [Does, accepted, accept]

/-- A law of one step has to be shown for each effect only. -/
theorem law_of_effect {property : Broker → Prop} {brings ends : Operation → Reply → Prop}
    (consistent : broker.Consistent) (operation : Operation)
    (law : ∀ reply after deliveries, broker.Effect operation reply after deliveries →
      (property after ↔ brings operation reply ∨ (property broker ∧ ¬ ends operation reply))) :
    property (broker.next operation) ↔
      broker.Does brings operation ∨ (property broker ∧ ¬ broker.Does ends operation) := by
  rcases settles_effect consistent operation with
    ⟨error, refused, _⟩ | ⟨reply, after, deliveries, accepted, effect⟩
  · simp [next, Does, refused, refuse]
  · rw [next_of_accept accepted, does_iff_of_accept accepted, does_iff_of_accept accepted]
    exact law reply after deliveries effect

/-- A law about the session of one client has to be shown only for the operations that concern
it. -/
theorem law_of_session {P : Option Session → Prop} {brings ends : Operation → Reply → Prop}
    (consistent : broker.Consistent) (client : String) (operation : Operation)
    (await : ∀ session messages, P (some (session.await messages)) ↔ P (some session))
    (broughtHere : broker.Does brings operation → broker.Does (Concerns client) operation)
    (endedHere : broker.Does ends operation → broker.Does (Concerns client) operation)
    (law : ∀ reply left, broker.Leaves client operation reply left →
      (P left ↔ brings operation reply ∨
        (P (broker.registry.get? client) ∧ ¬ ends operation reply))) :
    P ((broker.next operation).registry.get? client) ↔
      broker.Does brings operation ∨
        (P (broker.registry.get? client) ∧ ¬ broker.Does ends operation) := by
  rcases settles_effect consistent operation with
    ⟨error, refused, _⟩ | ⟨reply, after, deliveries, accepted, effect⟩
  · simp [next, Does, refused, refuse]
  · simp only [next_of_accept accepted, does_iff_of_accept accepted] at broughtHere endedHere ⊢
    rcases effect.session client with leaves | ⟨elsewhere, messages, same⟩
    · exact law reply _ leaves
    · have notBrought := mt broughtHere elsewhere
      have notEnded := mt endedHere elsewhere
      have kept : P (after.registry.get? client) ↔ P (broker.registry.get? client) := by
        rw [same]
        cases broker.registry.get? client with
        | none => rfl
        | some session => exact await session messages
      simp [kept, notBrought, notEnded]

theorem concerns_of_begins {client : String} {operation : Operation}
    (begins : broker.Begins client operation) : broker.Does (Concerns client) operation := by
  obtain ⟨reply, succeeds, begun⟩ := begins
  refine ⟨reply, succeeds, ?_⟩
  split at begun
  · exact begun
  · exact begun.1
  · exact begun.elim

theorem concerns_of_ends {client : String} {operation : Operation}
    (ends : broker.Ends client operation) : broker.Does (Concerns client) operation := by
  obtain ⟨reply, succeeds, ended⟩ := ends
  refine ⟨reply, succeeds, ?_⟩
  split at ended
  · exact ended
  · exact ended.1
  · exact ended.elim

theorem isSome_get?_next (consistent : broker.Consistent) (client : String)
    (operation : Operation) :
    ((broker.next operation).registry.get? client).isSome = true ↔
      broker.Begins client operation ∨
        ((broker.registry.get? client).isSome = true ∧ ¬ broker.Ends client operation) := by
  refine law_of_session (P := fun session => session.isSome = true) consistent client operation
    (by simp) concerns_of_begins concerns_of_ends fun reply left leaves => ?_
  cases leaves with
  | created => simp
  | resumed found => simp [found]
  | suspended found => simp [found]
  | removed => simp
  | @connected request connection generated present session link will known =>
      cases present <;> simp_all
  | ended found clean => simp [found, clean]
  | released found notClean => simp [found, notClean]

section Granted

/-- A fresh session begins without subscriptions. -/
theorem granted?_withFresh (owned : broker.Owned) {created : String}
    (notHere : broker.registry.hasActive created = false) (connection : ConnectionId)
    (filter client : String) :
    (broker.withFresh created connection).subscriptions.granted? filter client =
      if client = created then none else broker.subscriptions.granted? filter client := by
  unfold withFresh
  split
  case isTrue => exact Subscriptions.granted?_unsubscribeAll _ _ _ _
  case isFalse notKept =>
    split
    case isFalse => rfl
    case isTrue same =>
      -- Subscriptions need a session, and the client is neither here nor away.
      rw [same]
      by_contra granted
      obtain ⟨qos, granted⟩ := Option.ne_none_iff_exists'.mp granted
      obtain ⟨session, found⟩ := Option.isSome_iff_exists.mp (owned filter created qos granted)
      rcases Registry.hasActive_or_hasPersisted found with here | away
      · rw [notHere] at here
        cases here
      · exact notKept away

theorem granted?_without (removed filter client : String) :
    (broker.without removed).subscriptions.granted? filter client =
      if client = removed then none else broker.subscriptions.granted? filter client :=
  Subscriptions.granted?_unsubscribeAll _ _ _ _

theorem granted?_tornDown {released : String} {session : Session}
    (found : broker.registry.get? released = some session) (filter client : String) :
    (broker.tornDown released session).subscriptions.granted? filter client =
      if released = client ∧ (broker.registry.get? client).map Session.clean = some true then none
      else broker.subscriptions.granted? filter client := by
  unfold tornDown
  by_cases clean : session.clean = true
  · rw [if_pos clean, granted?_without]
    by_cases same : client = released
    · simp [same, found, clean]
    · simp [same, Ne.symm same]
  · rw [if_neg clean, if_neg]
    · rfl
    · rintro ⟨rfl, also⟩
      exact clean (by simpa [found] using also)

theorem subscriptions_enterRequest (client : String) (request : ConnectRequest) :
    (broker.enterRequest client request).subscriptions = broker.subscriptions := by
  unfold enterRequest
  split <;> rfl

theorem granted?_of_binds (owned : broker.Owned) {bound : Broker} {connecting : String}
    {connection : ConnectionId} {present : Bool} {deliveries : List Delivery}
    (binds : broker.Binds connecting connection present bound deliveries)
    (request : ConnectRequest) (filter client : String) :
    (bound.enterRequest connecting request).subscriptions.granted? filter client =
      if connecting = client ∧ present = false then none
      else broker.subscriptions.granted? filter client := by
  rw [subscriptions_enterRequest]
  cases present with
  | true =>
      obtain ⟨session, _, _, rfl, _⟩ := binds
      simp [withBound]
  | false =>
      obtain ⟨notHere, rfl, _⟩ := binds
      rw [granted?_withFresh owned notHere]
      simp [eq_comm]

end Granted

theorem granted?_next (consistent : broker.Consistent) (owned : broker.Owned)
    (subscription : Subscription) (operation : Operation) :
    (broker.next operation).subscriptions.granted? subscription.filter subscription.client =
        some subscription.granted ↔
      broker.Makes subscription operation ∨
        (broker.subscriptions.granted? subscription.filter subscription.client =
            some subscription.granted ∧
          ¬ (broker.Withdraws subscription.filter subscription.client operation ∨
            broker.Bounds subscription.client operation)) := by
  obtain ⟨filter, client, granted⟩ := subscription
  simp only [Makes, Withdraws, Bounds, Begins, Ends, ← does_or]
  refine @law_of_effect broker
    (fun broker => broker.subscriptions.granted? filter client = some granted) _ _
    consistent operation fun reply after deliveries effect => ?_
  cases effect with
  | @subscribes made subscriber qos given session subscriptions found accepted =>
      rw [Subscriptions.granted?_subscribe accepted]
      by_cases same : filter = made ∧ client = subscriber
      · simp [same]
      · rw [if_neg same]
        simp_all [eq_comm]
  | @unsubscribes withdrawn subscriber removed subscriptions accepted =>
      rw [Subscriptions.granted?_unsubscribe accepted]
      by_cases same : filter = withdrawn ∧ client = subscriber
      · simp [same]
      · rw [if_neg same]
        simp_all [eq_comm]
  | unsubscribesAll subscriber =>
      rw [Subscriptions.granted?_unsubscribeAll]
      by_cases same : client = subscriber
      · simp [same]
      · simp [same, Ne.symm same]
  | publishes publishes => simp [publishes.subscriptions]
  | retains => simp
  | @creates created notHere connection =>
      rw [granted?_withFresh owned notHere]
      by_cases same : client = created
      · simp [same]
      · simp [same, Ne.symm same]
  | resumes => simp [withBound]
  | suspends => simp [withUnbound]
  | @removes removed session found =>
      rw [granted?_without]
      by_cases same : client = removed
      · simp [same]
      · simp [same, Ne.symm same]
  | @connects request connection _ connecting present _ _ effective valid resumed binds =>
      rw [granted?_of_binds owned binds]
      by_cases same : connecting = client ∧ present = false
      · simp [same]
      · simp only [same, if_false, false_or, or_false, not_false_eq_true, and_true]
  | releasesLate stale ending => simp
  | @releases released token ending session current found silent =>
      rw [granted?_tornDown found]
      split <;> simp_all
  | @releasesWithWill released token ending session will _ _ current found left publishes =>
      rw [publishes.subscriptions, granted?_tornDown found]
      split <;> simp_all

theorem effect_of_does (consistent : broker.Consistent) {kind : Operation → Reply → Prop}
    {operation : Operation} (does : broker.Does kind operation) :
    ∃ reply after deliveries, broker.perform operation = after.accept reply deliveries ∧
      broker.Effect operation reply after deliveries ∧ kind operation reply := by
  obtain ⟨reply, succeeds, isKind⟩ := does
  rcases settles_effect consistent operation with
    ⟨error, refused, _⟩ | ⟨answer, after, deliveries, accepted, effect⟩
  · rw [refused] at succeeds
    cases succeeds
  · rw [accepted] at succeeds
    cases succeeds
    exact ⟨reply, after, deliveries, accepted, effect, isKind⟩

theorem isSome_of_makes (consistent : broker.Consistent) {subscription : Subscription}
    {operation : Operation} (makes : broker.Makes subscription operation) :
    (broker.registry.get? subscription.client).isSome = true ∧
      ¬ broker.Bounds subscription.client operation := by
  obtain ⟨reply, after, deliveries, _, effect, made⟩ := effect_of_does consistent makes
  cases effect with
  | subscribes found accepted =>
      subst made
      refine ⟨Option.isSome_of_eq_some found, ?_⟩
      rintro (⟨_, _, never⟩ | ⟨_, _, never⟩) <;> exact never
  | _ => exact made.elim

theorem Owned.next (owned : broker.Owned) (consistent : broker.Consistent)
    (operation : Operation) : (broker.next operation).Owned := by
  intro filter client granted placed
  apply (isSome_get?_next consistent client operation).mpr
  rcases (granted?_next consistent owned ⟨filter, client, granted⟩ operation).mp placed with
    makes | ⟨before, spared⟩
  · obtain ⟨there, within⟩ := isSome_of_makes consistent makes
    exact Or.inr ⟨there, fun ends => within (Or.inr ends)⟩
  · exact Or.inr ⟨owned filter client granted before, fun ends => spared (Or.inr (Or.inr ends))⟩

end Step

section Run

/-- The subscription was made in the session that its client has, and it has not been made anew or
withdrawn since. -/
def InPlace (settings : BrokerSettings) (history : List Operation) (subscription : Subscription) :
    Prop :=
  ∃ earlier beginning between making later,
    history = earlier ++ beginning :: (between ++ making :: later) ∧
    ((start settings).run earlier).Begins subscription.client beginning ∧
    Never next (Bounds subscription.client) ((start settings).run (earlier ++ [beginning]))
      (between ++ making :: later) ∧
    ((start settings).run (earlier ++ beginning :: between)).Makes subscription making ∧
    Never next (Withdraws subscription.filter subscription.client)
      ((start settings).run (earlier ++ beginning :: (between ++ [making]))) later

theorem run_eq_foldl (broker : Broker) (history : List Operation) :
    broker.run history = history.foldl next broker := rfl

theorem run_next (broker : Broker) (history : List Operation) (operation : Operation) :
    (broker.run history).next operation = broker.run (history ++ [operation]) :=
  (run_append_singleton broker history operation).symm

theorem granted?_start (settings : BrokerSettings) (filter client : String) :
    (start settings).subscriptions.granted? filter client = none := by
  simp [start, Subscriptions.granted?]

theorem owned_start (settings : BrokerSettings) : (start settings).Owned := by
  intro filter client granted placed
  rw [granted?_start] at placed
  cases placed

theorem Owned.run (owned : broker.Owned) (consistent : broker.Consistent)
    (history : List Operation) : (broker.run history).Owned := by
  induction history generalizing broker with
  | nil => exact owned
  | cons operation history ih =>
      exact ih (owned.next consistent operation) (consistent.next operation)

variable (settings : BrokerSettings) (history : List Operation)

theorem isSome_get?_run (client : String) :
    (((start settings).run history).registry.get? client).isSome = true ↔
      HeldSince next (Begins client) (Bounds client) (start settings) history := by
  refine @holds_iff_heldSince _ _ next (Begins client) (Bounds client) (start settings)
    (fun broker => (broker.registry.get? client).isSome = true) Consistent ?_
    (consistent_start settings) (fun _ operation consistent => consistent.next operation) ?_
    history
  · simp [start]
  · intro broker operation consistent
    rw [isSome_get?_next consistent, Bounds]
    tauto

theorem granted?_run (subscription : Subscription) :
    ((start settings).run history).subscriptions.granted? subscription.filter subscription.client =
        some subscription.granted ↔
      HeldSince next (Makes subscription)
        (fun broker operation =>
          broker.Withdraws subscription.filter subscription.client operation ∨
            broker.Bounds subscription.client operation)
        (start settings) history := by
  refine @holds_iff_heldSince _ _ next _ _ (start settings)
    (fun broker => broker.subscriptions.granted? subscription.filter subscription.client =
      some subscription.granted) (fun broker => broker.Consistent ∧ broker.Owned) ?_
    ⟨consistent_start settings, owned_start settings⟩ ?_ ?_ history
  · simp [granted?_start]
  · rintro broker operation ⟨consistent, owned⟩
    exact ⟨consistent.next operation, owned.next consistent operation⟩
  · rintro broker operation ⟨consistent, owned⟩
    exact granted?_next consistent owned subscription operation

theorem granted?_run_iff_inPlace (subscription : Subscription) :
    ((start settings).run history).subscriptions.granted? subscription.filter subscription.client =
        some subscription.granted ↔ InPlace settings history subscription := by
  rw [granted?_run]
  constructor
  -- A subscription can only be made in a session, so the session has begun before.
  · rintro ⟨before, making, later, rfl, makes, undisturbed⟩
    have consistent := ((consistent_start settings).run before).consistent
    obtain ⟨there, within⟩ := isSome_of_makes consistent makes
    obtain ⟨earlier, beginning, between, rfl, begins, lasts⟩ :=
      (isSome_get?_run settings before subscription.client).mp there
    refine ⟨earlier, beginning, between, making, later, by simp, begins, ?_, makes, ?_⟩
    · simp only [run_eq_foldl, List.foldl_append, List.foldl_cons, List.foldl_nil, never_append]
        at lasts undisturbed within ⊢
      exact ⟨lasts, within, undisturbed.mono fun _ _ => Or.inr⟩
    · simp only [run_eq_foldl, List.foldl_append, List.foldl_cons, List.foldl_nil] at undisturbed ⊢
      exact undisturbed.mono fun _ _ => Or.inl
  · rintro ⟨earlier, beginning, between, making, later, rfl, begins, lasts, makes, kept⟩
    refine ⟨earlier ++ beginning :: between, making, later, by simp, makes, ?_⟩
    simp only [run_eq_foldl, List.foldl_append, List.foldl_cons, List.foldl_nil, never_append]
      at lasts kept ⊢
    exact kept.or lasts.2.2

end Run

end TopicBroker.Broker

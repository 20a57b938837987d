import TopicBroker.Proofs.Broker.Lifetimes
import TopicBroker.Proofs.Session.Bindings

/-!
# Which will is published

A will is kept with the session and not with the binding.  A request decides
anew what will there is, but a session that is merely resumed goes on with the
will that it has.  So when a connection is lost, the will that is published is
the one of the request that made the binding, or, if the binding was made by
resuming the session, the one that was registered before and has been neither
replaced nor taken since.  Tokens are issued once, hence there is exactly one
operation that has made the binding.
-/

namespace TopicBroker.Broker

/-- The operation binds the client under this token. -/
def Issues (client : String) (token : Token) (broker : Broker) : Operation → Prop :=
  broker.Does fun
    | .createSession created _, .bound issued => created = client ∧ issued = token
    | .resumeSession resumed _, .bound issued => resumed = client ∧ issued = token
    | .connect .., .connected reply => reply.client = client ∧ reply.token = token
    | _, _ => False

/-- The operation binds the client, or it ends the binding that the client has. -/
def Rebinds (client : String) (broker : Broker) : Operation → Prop :=
  broker.Does (Concerns client)

/-- The operation connects the client with a request that carries this will. -/
def Registers (client : String) (will : Will) (broker : Broker) : Operation → Prop :=
  broker.Does fun
    | .connect request _ _, .connected reply => reply.client = client ∧ request.will = some will
    | _, _ => False

/-- The operation decides anew whether there is a will of the client: it gives the client a fresh
session, enters a request, takes the will, or removes the session. -/
def Decides (client : String) (broker : Broker) : Operation → Prop :=
  broker.Does fun
    | .createSession changed _, _ => changed = client
    | .removeSession changed, _ => changed = client
    | .connect .., .connected reply => reply.client = client
    | .release released _ _, .flag true => released = client
    | _, _ => False

/-- The will that is kept for a client. -/
def will? (broker : Broker) (client : String) : Option Will :=
  (broker.registry.get? client).bind Session.will

variable {broker : Broker} {client : String} {token : Token} {will : Will} {operation : Operation}

section Step

theorem rebinds_of_issues (issues : broker.Issues client token operation) :
    broker.Rebinds client operation := by
  obtain ⟨reply, succeeds, issued⟩ := issues
  refine ⟨reply, succeeds, ?_⟩
  split at issued
  · exact issued.1
  · exact issued.1
  · exact issued.1
  · exact issued.elim

theorem rebinds_of_decides (decides : broker.Decides client operation) :
    broker.Rebinds client operation := by
  obtain ⟨reply, succeeds, decided⟩ := decides
  refine ⟨reply, succeeds, ?_⟩
  split at decided
  · exact decided
  · exact decided
  · exact decided
  · exact decided
  · exact decided.elim

theorem decides_of_registers (registers : broker.Registers client will operation) :
    broker.Decides client operation := by
  obtain ⟨reply, succeeds, registered⟩ := registers
  refine ⟨reply, succeeds, ?_⟩
  split at registered
  · exact registered.1
  · exact registered.elim

theorem token?_next (consistent : broker.Consistent) (client : String) (token : Token)
    (operation : Operation) :
    (broker.next operation).registry.token? client = some token ↔
      broker.Issues client token operation ∨
        (broker.registry.token? client = some token ∧ ¬ broker.Rebinds client operation) := by
  refine law_of_session (P := fun session => session.bind Session.token? = some token) consistent
    client operation (by simp [Session.token?]) rebinds_of_issues id fun reply left leaves => ?_
  cases leaves with
  | created => simp [Concerns, Session.fresh, Session.token?]
  | resumed => simp [Concerns, Session.boundTo, Session.token?]
  | connected link => simp [Concerns, Session.token?, link]
  | suspended | removed | ended | released => simp [Concerns, Session.token?]

theorem will?_next (consistent : broker.Consistent) (client : String) (will : Will)
    (operation : Operation) :
    (broker.next operation).will? client = some will ↔
      broker.Registers client will operation ∨
        (broker.will? client = some will ∧ ¬ broker.Decides client operation) := by
  refine law_of_session (P := fun session => session.bind Session.will = some will) consistent
    client operation (by simp) (fun registers => rebinds_of_decides (decides_of_registers registers))
    rebinds_of_decides fun reply left leaves => ?_
  cases leaves with
  | created => simp [Session.fresh]
  | resumed found => simp [Session.boundTo, found]
  | suspended found => simp [found]
  | connected link registered => simp [registered]
  | removed | ended | released => simp

section Number

theorem nextToken_enterRequest (client : String) (request : ConnectRequest) :
    (broker.enterRequest client request).registry.nextToken = broker.registry.nextToken := by
  unfold enterRequest
  split <;> rfl

theorem nextToken_tornDown (client : String) (session : Session) :
    (broker.tornDown client session).registry.nextToken = broker.registry.nextToken := by
  unfold tornDown
  split <;> rfl

theorem nextToken_of_binds {connection : ConnectionId} {present : Bool} {bound : Broker}
    {deliveries : List Delivery}
    (binds : broker.Binds client connection present bound deliveries) :
    bound.registry.nextToken = ⟨broker.registry.nextToken.number + 1⟩ := by
  cases present with
  | true =>
      obtain ⟨session, _, _, rfl, _⟩ := binds
      rfl
  | false =>
      obtain ⟨_, rfl, _⟩ := binds
      rfl

theorem nextToken_le_next (consistent : broker.Consistent) (operation : Operation) :
    broker.registry.nextToken.number ≤ (broker.next operation).registry.nextToken.number := by
  rcases settles_effect consistent operation with
    ⟨error, refused, _⟩ | ⟨reply, after, deliveries, accepted, effect⟩
  · rw [next, refused]
    exact Nat.le_refl _
  · rw [next_of_accept accepted]
    cases effect with
    | publishes publishes => rw [publishes.nextToken]
    | creates => exact Nat.le_succ _
    | resumes => exact Nat.le_succ _
    | connects effective valid resumed binds =>
        rw [nextToken_enterRequest, nextToken_of_binds binds]
        exact Nat.le_succ _
    | releases => rw [nextToken_tornDown]
    | releasesWithWill current found left publishes =>
        rw [publishes.nextToken, nextToken_tornDown]
    | _ => exact Nat.le_refl _

/-- The token that an operation issues is the next one, and it is used up then. -/
theorem token_of_issues (consistent : broker.Consistent)
    (issues : broker.Issues client token operation) :
    token = broker.registry.nextToken ∧
      (broker.next operation).registry.nextToken.number = token.number + 1 := by
  obtain ⟨reply, after, deliveries, accepted, effect, issued⟩ := effect_of_does consistent issues
  rw [next_of_accept accepted]
  cases effect with
  | creates =>
      obtain ⟨_, rfl⟩ := issued
      exact ⟨rfl, rfl⟩
  | resumes =>
      obtain ⟨_, rfl⟩ := issued
      exact ⟨rfl, rfl⟩
  | connects effective valid resumed binds =>
      obtain ⟨_, rfl⟩ := issued
      rw [nextToken_enterRequest, nextToken_of_binds binds]
      exact ⟨rfl, rfl⟩
  | _ => exact issued.elim

theorem nextToken_le_run (consistent : broker.Consistent) (history : List Operation) :
    broker.registry.nextToken.number ≤ (broker.run history).registry.nextToken.number := by
  induction history generalizing broker with
  | nil => exact Nat.le_refl _
  | cons operation history ih =>
      exact (nextToken_le_next consistent operation).trans (ih (consistent.next operation))

/-- A token that has been issued is not issued again later. -/
theorem not_issues_later (consistent : broker.Consistent)
    (issues : broker.Issues client token operation) (between : List Operation) {other : String}
    {again : Operation} : ¬ (broker.run (operation :: between)).Issues other token again := by
  intro reissues
  have usedUp := (token_of_issues consistent issues).2
  have passed := nextToken_le_run (consistent.next operation) between
  have reached := (consistent.run (operation :: between)).consistent
  have same := (token_of_issues reached reissues).1
  have number := congrArg Token.number same
  change token.number = ((broker.next operation).run between).registry.nextToken.number at number
  omega

end Number

end Step

section Run

/-- A token is issued by one operation of a history only. -/
theorem issued_once {settings : BrokerSettings} {earlier later first rest : List Operation}
    {binding again : Operation} {other : String}
    (same : earlier ++ binding :: later = first ++ again :: rest)
    (issues : ((start settings).run earlier).Issues client token binding)
    (reissues : ((start settings).run first).Issues other token again) :
    earlier = first ∧ binding = again ∧ later = rest := by
  -- Of two operations at different places, the later one finds the token used up.
  have consistent (history : List Operation) : ((start settings).run history).Consistent :=
    ((consistent_start settings).run history).consistent
  rcases List.append_eq_append_iff.mp same with ⟨middle, rfl, split⟩ | ⟨middle, rfl, split⟩
  · cases middle with
    | nil => simpa using split
    | cons operation between =>
        obtain ⟨rfl, rfl⟩ := List.cons.inj split
        rw [run_append] at reissues
        exact absurd reissues (not_issues_later (consistent earlier) issues between)
  · cases middle with
    | nil => simpa [eq_comm] using split
    | cons operation between =>
        obtain ⟨rfl, rfl⟩ := List.cons.inj split
        rw [run_append] at issues
        exact absurd issues (not_issues_later (consistent first) reissues between)

/-- After every history, the next token has not been issued yet. -/
theorem not_issued_yet (settings : BrokerSettings) {earlier later : List Operation}
    {operation : Operation} (other : String) :
    ¬ ((start settings).run earlier).Issues other
      ((start settings).run (earlier ++ operation :: later)).registry.nextToken operation := by
  intro issues
  have consistent := ((consistent_start settings).run earlier).consistent
  have usedUp := (token_of_issues consistent issues).2
  have passed := nextToken_le_run (consistent.next operation) later
  rw [run_append] at usedUp
  change _ = ((((start settings).run earlier).next operation).run later).registry.nextToken.number
    + 1 at usedUp
  omega

variable (settings : BrokerSettings) (history : List Operation)

theorem token?_run (client : String) (token : Token) :
    ((start settings).run history).registry.token? client = some token ↔
      HeldSince next (Issues client token) (Rebinds client) (start settings) history := by
  refine @holds_iff_heldSince _ _ next _ _ (start settings)
    (fun broker => broker.registry.token? client = some token) Consistent ?_
    (consistent_start settings) (fun _ operation consistent => consistent.next operation)
    (fun _ operation consistent => token?_next consistent client token operation) history
  simp [start, Registry.token?]

theorem will?_run (client : String) (will : Will) :
    ((start settings).run history).will? client = some will ↔
      HeldSince next (Registers client will) (Decides client) (start settings) history := by
  refine @holds_iff_heldSince _ _ next _ _ (start settings)
    (fun broker => broker.will? client = some will) Consistent ?_
    (consistent_start settings) (fun _ operation consistent => consistent.next operation)
    (fun _ operation consistent => will?_next consistent client will operation) history
  simp [start, will?]

/-- The will that goes with a binding: the one that the request carries, or, if a session is merely
resumed, the one that has been registered earlier and has been neither replaced nor taken since. -/
def BindingWill (settings : BrokerSettings) (earlier : List Operation) (client : String)
    (will : Will) : Operation → Prop
  | .connect request _ _ => request.will = some will
  | .resumeSession _ _ =>
    HeldSince next (Registers client will) (Decides client) (start settings) earlier
  | _ => False

/-- As long as a client stays bound, the will that is kept for it is the one of the binding. -/
theorem will?_iff_bindingWill {earlier later : List Operation} {binding : Operation}
    (issues : ((start settings).run earlier).Issues client token binding)
    (stays : Never next (Rebinds client) ((start settings).run (earlier ++ [binding])) later) :
    ((start settings).run (earlier ++ binding :: later)).will? client = some will ↔
      BindingWill settings earlier client will binding := by
  have consistent (history : List Operation) : ((start settings).run history).Consistent :=
    ((consistent_start settings).run history).consistent
  have spared : Never next (Decides client) ((start settings).run (earlier ++ [binding])) later :=
    stays.mono fun _ _ => rebinds_of_decides
  have unchanged := @holds_iff_of_never _ _ next (Registers client will) (Decides client)
    (fun broker => broker.will? client = some will) Consistent _ later
    (consistent (earlier ++ [binding])) (fun _ operation consistent => consistent.next operation)
    (fun _ operation consistent => will?_next consistent client will operation)
    (spared.mono fun _ _ => decides_of_registers) spared
  rw [← run_eq_foldl, ← run_append, List.append_assoc, List.singleton_append] at unchanged
  rw [unchanged, ← run_next, will?_next (consistent earlier)]
  obtain ⟨reply, succeeds, issued⟩ := issues
  cases binding with
  | createSession created connection =>
      cases reply with
      | bound number =>
          have decides : ((start settings).run earlier).Decides client
              (.createSession created connection) := ⟨_, succeeds, issued.1⟩
          simp [BindingWill, decides, Registers, Does]
      | _ => exact issued.elim
  | resumeSession resumed connection =>
      simp [BindingWill, Registers, Decides, Does, will?_run]
  | connect request connection generated =>
      cases reply with
      | connected reply =>
          have decides : ((start settings).run earlier).Decides client
              (.connect request connection generated) := ⟨_, succeeds, issued.1⟩
          simp [BindingWill, decides, Registers, Does, succeeds, issued.1]
      | _ => exact issued.elim
  | _ => exact issued.elim

theorem isCurrent_of_release {ending : Ending}
    (released : (broker.release client token ending).result = .ok true) :
    broker.registry.isCurrent client token = true := by
  cases current : broker.registry.isCurrent client token with
  | true => rfl
  | false =>
      rw [release_of_stale client current] at released
      cases released

/-- When a connection is lost whose token is current, the session is torn down as if the client had
disconnected, and then the will of the one binding that has this token is published, if there is
one. -/
theorem release_lost (released : (((start settings).run history).release client token
      .connectionLost).result = .ok true) :
    let broker := (start settings).run history
    let torn := (broker.release client token .disconnect).broker
    ∃ earlier binding later, history = earlier ++ binding :: later ∧
      ((start settings).run earlier).Issues client token binding ∧
      (∀ first again rest other, history = first ++ again :: rest →
        ((start settings).run first).Issues other token again →
          earlier = first ∧ binding = again ∧ later = rest) ∧
      ∃ published : Option Will,
        (∀ will, published = some will ↔ BindingWill settings earlier client will binding) ∧
        broker.release client token .connectionLost = match published with
          | none => torn.accept true []
          | some will =>
            (torn.publish will.topic will.payload will.qos will.retain).map fun _ => true := by
  intro broker torn
  have consistent := ((consistent_start settings).run history).consistent
  have current := isCurrent_of_release released
  obtain ⟨earlier, binding, later, split, issues, stays⟩ :=
    (token?_run settings history client token).mp (Registry.isCurrent_iff_token?.mp current)
  obtain ⟨session, link, found, _, _⟩ := Registry.isCurrent_iff.mp current
  have tears : torn = broker.tornDown client session := by
    simp only [torn]
    rw [release_of_silent current found rfl]
    rfl
  refine ⟨earlier, binding, later, split, issues, fun first again rest other same reissues =>
    issued_once (split.symm.trans same) issues reissues, session.will, fun will => ?_, ?_⟩
  · rw [← will?_iff_bindingWill settings issues (by rwa [← run_next]), ← split]
    simp [will?, found]
  · rw [tears]
    cases left : session.will with
    | none => exact release_of_silent current found left
    | some will =>
        -- The topic of the will was checked when the will was registered.
        have left : leftWill .connectionLost session = some will := left
        rcases settles_publish (consistent.tornDown client found) will.topic will.payload will.qos
          will.retain with ⟨error, _, fault, faulty, _⟩ | ⟨_, after, deliveries, accepted, _⟩
        · rw [settings_tornDown, valid_of_leftWill consistent found left] at faulty
          cases faulty
        · rw [release_of_will current found left accepted]
          simp only [broker, accepted]
          rfl

/-- A client leaves a will, and its session is released from the connection and resumed.  The new
binding is lost. -/
theorem release_lost_after_return :
    let history : List Operation :=
      [.createSession "bob" ⟨0⟩, .subscribe "gone" "bob" .atLeastOnce,
        .connect ⟨"ann", false, some ⟨"gone", [7], .atLeastOnce, false⟩⟩ ⟨1⟩ "",
        .suspendSession "ann", .resumeSession "ann" ⟨2⟩]
    let broker := (start default).run history
    let torn := (broker.release "ann" ⟨3⟩ .disconnect).broker
    (broker.release "ann" ⟨3⟩ .connectionLost).result = .ok true ∧
    ∃ earlier binding later, history = earlier ++ binding :: later ∧
      ((start default).run earlier).Issues "ann" ⟨3⟩ binding ∧
      (∀ first again rest other, history = first ++ again :: rest →
        ((start default).run first).Issues other ⟨3⟩ again →
          earlier = first ∧ binding = again ∧ later = rest) ∧
      ∃ published : Option Will,
        (∀ will, published = some will ↔ BindingWill default earlier "ann" will binding) ∧
        broker.release "ann" ⟨3⟩ .connectionLost = match published with
          | none => torn.accept true []
          | some will =>
            (torn.publish will.topic will.payload will.qos will.retain).map fun _ => true := by
  intro history broker torn
  have released : (((start default).run history).release "ann" ⟨3⟩ .connectionLost).result =
      .ok true := by
    decide +kernel
  exact ⟨released, release_lost default history released⟩

/-- The will that is published need not belong to the binding that is lost: the token was issued
when the session was resumed, and by no request at all. -/
theorem lost_will_without_request :
    let history : List Operation :=
      [.createSession "bob" ⟨0⟩, .subscribe "gone" "bob" .atLeastOnce,
        .connect ⟨"ann", false, some ⟨"gone", [7], .atLeastOnce, false⟩⟩ ⟨1⟩ "",
        .suspendSession "ann", .resumeSession "ann" ⟨2⟩]
    let outcome := ((start default).run history).release "ann" ⟨3⟩ .connectionLost
    outcome.result = .ok true ∧
      outcome.deliveries = [⟨⟨0⟩, .first "gone" [7] .atLeastOnce false⟩] ∧
      ¬ ∃ earlier request connection generated later,
        history = earlier ++ .connect request connection generated :: later ∧
        ((start default).run earlier).Issues "ann" ⟨3⟩ (.connect request connection generated) := by
  refine ⟨by decide +kernel, by decide +kernel, ?_⟩
  rintro ⟨earlier, request, connection, generated, later, split, issues⟩
  have resumed : ((start default).run [.createSession "bob" ⟨0⟩,
      .subscribe "gone" "bob" .atLeastOnce,
      .connect ⟨"ann", false, some ⟨"gone", [7], .atLeastOnce, false⟩⟩ ⟨1⟩ "",
      .suspendSession "ann"]).Issues "ann" ⟨3⟩ (.resumeSession "ann" ⟨2⟩) :=
    ⟨.bound ⟨3⟩, by decide +kernel, rfl, rfl⟩
  obtain ⟨_, same, _⟩ := issued_once split.symm issues resumed
  cases same

end Run

end TopicBroker.Broker

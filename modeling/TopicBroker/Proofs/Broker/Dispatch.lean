import TopicBroker.Proofs.Broker.Upkeep
import TopicBroker.Proofs.Outlets

/-!
# What slow connections lose

Deliveries are sent one by one, in the order in which the broker hands them
over, and clients receive from their connections and close them at any time,
also while a batch is on its way.  An operation that is performed at once is the
case in which nothing happens before its batch is sent.

Such a dispatch is compared with another one in which the same happens but every
connection ends in a recorder, which has no receiving end and never refuses a
message.

The broker takes no notice of the outlets, so both dispatches go through the
same states of the broker.  A connection differs from its recorder by its own
account only: it lacks the messages that found it full or closed, and those that
waited when it was closed.
-/

namespace TopicBroker

namespace Exchange

/-- What a client does at the receiving end of its connection. -/
inductive Use where
  | receives
  | drains
  | closes
  deriving DecidableEq, Repr

/-- Whether a connection has a receiving end; a recorder has none. -/
def hasReceiver (exchange : Exchange) (connection : ConnectionId) : Bool :=
  ((exchange.outlet? connection).bind Outlet.capacity).isSome

def use (exchange : Exchange) (connection : ConnectionId) : Use → Exchange
  | .receives => (exchange.receive connection).1
  | .drains => (exchange.drain connection).1
  | .closes => exchange.close connection

/-- What the client gets from using the receiving end. -/
def takenBy (exchange : Exchange) (connection : ConnectionId) : Use → List Publish
  | .receives => (exchange.receive connection).2.toList
  | .drains => (exchange.drain connection).2
  | .closes => []

/-- What is lost by using the receiving end: all that still waits when it is closed. -/
def discardedBy (exchange : Exchange) (connection : ConnectionId) : Use → List Publish
  | .closes => (exchange.drain connection).2
  | _ => []

end Exchange

/-- An exchange whose deliveries are on their way. -/
structure Dispatch where
  exchange : Exchange
  /-- What the broker has handed over and has not been sent yet, in the order of sending. -/
  pending : List Delivery

namespace Dispatch

inductive Event where
  /-- A connection is opened, with so much room or with a recorder. -/
  | opens (room : Option Nat)
  | asks (operation : Operation)
  /-- The next delivery is sent into the outlet of its connection. -/
  | sends
  | uses (connection : ConnectionId) (use : Exchange.Use)
  deriving DecidableEq, Repr

def Event.operation? : Event → Option Operation
  | .asks operation => some operation
  | _ => none

/-- The same event where all connections end in recorders. -/
def Event.recorded : Event → Event
  | .opens _ => .opens none
  | event => event

def start (settings : BrokerSettings) : Dispatch := ⟨.start settings, []⟩

def next (dispatch : Dispatch) : Event → Dispatch
  | .opens room =>
    { dispatch with exchange := (dispatch.exchange.openConnection (.ofRoom room)).1 }
  | .asks operation =>
    let outcome := dispatch.exchange.broker.perform operation
    { exchange := { dispatch.exchange with broker := outcome.broker }
      pending := dispatch.pending ++ outcome.deliveries }
  | .sends =>
    match dispatch.pending with
    | [] => dispatch
    | delivery :: later => ⟨dispatch.exchange.deliver delivery, later⟩
  | .uses connection use =>
    if dispatch.exchange.hasReceiver connection then
      { dispatch with exchange := dispatch.exchange.use connection use }
    else dispatch

def after (dispatch : Dispatch) (events : List Event) : Dispatch :=
  events.foldl next dispatch

/-- What is noted down in the course of the events, each of them seen together with the dispatch
that it happens to. -/
def noted {α : Type} (note : Dispatch → Event → List α) : Dispatch → List Event → List α
  | _, [] => []
  | dispatch, event :: later => note dispatch event ++ noted note (dispatch.next event) later

/-- What the broker answers, if it is asked, and the state in which the event leaves it. -/
def answered (dispatch : Dispatch) (event : Event) :
    List (Option (Except BrokerError Reply) × Broker) :=
  [(event.operation?.map fun operation => (dispatch.exchange.perform operation).2,
    (dispatch.next event).exchange.broker)]

/-- A message that is sent to the connection, with the outlet that it finds there. -/
def handed (connection : ConnectionId) (dispatch : Dispatch) : Event → List (Publish × Outlet)
  | .sends =>
    match dispatch.pending with
    | [] => []
    | delivery :: _ =>
      if delivery.connection = connection then
        (dispatch.exchange.outlet? connection).toList.map (delivery.message, ·)
      else []
  | _ => []

/-- What the client takes out at the connection. -/
def taken (connection : ConnectionId) (dispatch : Dispatch) : Event → List Publish
  | .uses used use =>
    if used = connection ∧ dispatch.exchange.hasReceiver connection = true then
      dispatch.exchange.takenBy connection use
    else []
  | _ => []

/-- What is discarded because the client closes the connection. -/
def discarded (connection : ConnectionId) (dispatch : Dispatch) : Event → List Publish
  | .uses used use =>
    if used = connection ∧ dispatch.exchange.hasReceiver connection = true then
      dispatch.exchange.discardedBy connection use
    else []
  | _ => []

variable {dispatch recorder : Dispatch} {connection : ConnectionId}

section Outlets

theorem outlet?_modifyOutlet (exchange : Exchange) (modified : ConnectionId)
    (change : Outlet → Outlet) :
    (exchange.modifyOutlet modified change).outlet? connection =
      if modified = connection then (exchange.outlet? connection).map change
      else exchange.outlet? connection := by
  obtain ⟨modified⟩ := modified
  obtain ⟨connection⟩ := connection
  simp only [Exchange.outlet?, Exchange.modifyOutlet, List.getElem?_modify, ConnectionId.mk.injEq]
  split <;> simp

theorem deliver_eq (exchange : Exchange) (delivery : Delivery) :
    exchange.deliver delivery =
      exchange.modifyOutlet delivery.connection (·.offered delivery.message) := rfl

theorem use_eq (exchange : Exchange) (used : ConnectionId) (use : Exchange.Use) :
    exchange.use used use = exchange.modifyOutlet used (fun outlet =>
      match use with
      | .receives => outlet.receive.1
      | .drains => outlet.drain.1
      | .closes => outlet.close) := by
  cases use <;> rfl

theorem hasReceiver_iff {exchange : Exchange} {outlet : Outlet}
    (found : exchange.outlet? connection = some outlet) :
    exchange.hasReceiver connection = true ↔ outlet.capacity ≠ none := by
  rw [Exchange.hasReceiver, found, Option.bind_some, Option.isSome_iff_ne_none]

theorem account_use {exchange : Exchange} {outlet : Outlet}
    (found : exchange.outlet? connection = some outlet)
    (sound : outlet.closed = true → outlet.waiting = [])
    (receiver : exchange.hasReceiver connection = true) {closes : Prop} (use : Exchange.Use)
    (closing : closes ↔ use = .closes) :
    ∃ changed, (exchange.use connection use).outlet? connection = some changed ∧
      outlet.Account [] (exchange.takenBy connection use) (exchange.discardedBy connection use)
        closes changed := by
  have limited := (hasReceiver_iff found).mp receiver
  rw [use_eq, outlet?_modifyOutlet, if_pos rfl, found]
  cases use with
  | receives =>
      have received : (exchange.receive connection).2 = outlet.receive.2 := by
        simp [Exchange.receive, found]
      refine ⟨outlet.receive.1, rfl, ?_⟩
      rw [Exchange.takenBy, received]
      exact .ofReceive sound (by simp [closing]) limited
  | drains =>
      have drained : (exchange.drain connection).2 = outlet.drain.2 := by
        simp [Exchange.drain, Outlet.drain, found]
      refine ⟨outlet.drain.1, rfl, ?_⟩
      rw [Exchange.takenBy, drained]
      exact .ofDrain sound (by simp [closing]) limited
  | closes =>
      have drained : (exchange.drain connection).2 = outlet.waiting := by
        simp [Exchange.drain, found]
      refine ⟨outlet.close, rfl, ?_⟩
      rw [Exchange.discardedBy, drained]
      exact .ofClose (closing.mpr rfl) limited

/-- What an event does to the outlet of a connection is on its account. -/
theorem account_next {outlet : Outlet}
    (found : dispatch.exchange.outlet? connection = some outlet)
    (sound : outlet.closed = true → outlet.waiting = []) (event : Event) :
    ∃ changed, (dispatch.next event).exchange.outlet? connection = some changed ∧
      outlet.Account (handed connection dispatch event) (taken connection dispatch event)
        (discarded connection dispatch event)
        (outlet.capacity ≠ none ∧ .uses connection .closes = event) changed := by
  cases event with
  | opens room =>
      refine ⟨outlet, ?_, .refl sound (by simp)⟩
      have there : connection.number < dispatch.exchange.outlets.length :=
        (List.getElem?_eq_some_iff.mp found).1
      exact (List.getElem?_append_left there).trans found
  | asks operation => exact ⟨outlet, found, .refl sound (by simp)⟩
  | sends =>
      simp only [next, handed]
      cases dispatch.pending with
      | nil => exact ⟨outlet, found, .refl sound (by simp)⟩
      | cons delivery later =>
          simp only [deliver_eq, outlet?_modifyOutlet, found]
          by_cases same : delivery.connection = connection
          · rw [if_pos same, if_pos same]
            exact ⟨_, rfl, .ofOffered sound (by simp) delivery.message⟩
          · rw [if_neg same, if_neg same]
            exact ⟨outlet, rfl, .refl sound (by simp)⟩
  | uses used use =>
      simp only [next, handed, taken, discarded]
      by_cases concerns : used = connection ∧ dispatch.exchange.hasReceiver connection = true
      · rw [if_pos concerns, if_pos concerns]
        obtain ⟨rfl, receiver⟩ := concerns
        rw [if_pos receiver]
        have limited := (hasReceiver_iff found).mp receiver
        exact account_use found sound receiver use (by simp [limited, eq_comm])
      -- Another connection is used, or this one has no receiving end.
      · rw [if_neg concerns, if_neg concerns]
        refine ⟨outlet, ?_, .refl sound ?_⟩
        · split
          case isFalse => exact found
          case isTrue receiver =>
            have other : used ≠ connection := fun same => concerns ⟨same, same ▸ receiver⟩
            rw [use_eq, outlet?_modifyOutlet, if_neg other, found]
        · rintro ⟨limited, same⟩
          cases same
          exact concerns ⟨rfl, (hasReceiver_iff found).mpr limited⟩

theorem account_after {outlet : Outlet}
    (found : dispatch.exchange.outlet? connection = some outlet)
    (sound : outlet.closed = true → outlet.waiting = []) (events : List Event) :
    ∃ changed, (dispatch.after events).exchange.outlet? connection = some changed ∧
      outlet.Account (dispatch.noted (handed connection) events)
        (dispatch.noted (taken connection) events) (dispatch.noted (discarded connection) events)
        (outlet.capacity ≠ none ∧ .uses connection .closes ∈ events) changed := by
  induction events generalizing dispatch outlet with
  | nil => exact ⟨outlet, found, .refl sound (by simp)⟩
  | cons event later ih =>
      obtain ⟨between, there, first⟩ := account_next found sound event
      obtain ⟨changed, reached, second⟩ := ih there first.nothingWaits
      refine ⟨changed, reached, ?_⟩
      have both := first.trans second
      rw [first.capacity, ← and_or_left, ← List.mem_cons] at both
      exact both

end Outlets

section Recorders

/-- The second dispatch is at the same point as the first one, with recorders at the ends of the
connections. -/
structure RecordedBy (dispatch recorder : Dispatch) : Prop where
  broker : recorder.exchange.broker = dispatch.exchange.broker
  pending : recorder.pending = dispatch.pending
  connections : recorder.exchange.outlets.length = dispatch.exchange.outlets.length

@[simp] theorem broker_modifyOutlet (exchange : Exchange) (modified : ConnectionId)
    (change : Outlet → Outlet) : (exchange.modifyOutlet modified change).broker = exchange.broker :=
  rfl

@[simp] theorem length_outlets_modifyOutlet (exchange : Exchange) (modified : ConnectionId)
    (change : Outlet → Outlet) :
    (exchange.modifyOutlet modified change).outlets.length = exchange.outlets.length :=
  List.length_modify ..

theorem broker_next (dispatch : Dispatch) (event : Event) :
    (dispatch.next event).exchange.broker =
      dispatch.exchange.broker.run event.operation?.toList := by
  cases event with
  | opens room => rfl
  | asks operation => rfl
  | sends =>
      simp only [next]
      split <;> rfl
  | uses used use =>
      simp only [next]
      split <;> simp [Event.operation?, Broker.run, use_eq]

theorem recordedBy_next (recorded : dispatch.RecordedBy recorder) (event : Event) :
    (dispatch.next event).RecordedBy (recorder.next event.recorded) := by
  obtain ⟨broker, pending, connections⟩ := recorded
  cases event with
  | opens room =>
      refine ⟨broker, pending, ?_⟩
      simp [next, Event.recorded, Exchange.openConnection, connections]
  | asks operation =>
      simp only [next, Event.recorded, broker, pending]
      exact ⟨rfl, rfl, connections⟩
  | sends =>
      simp only [next, Event.recorded, pending]
      cases dispatch.pending with
      | nil => exact ⟨broker, pending, connections⟩
      | cons delivery later => exact ⟨broker, rfl, by simpa [deliver_eq] using connections⟩
  | uses used use =>
      simp only [next, Event.recorded]
      constructor <;> split <;> split <;> simp [use_eq, broker, pending, connections]

theorem recordedBy_after (recorded : dispatch.RecordedBy recorder) (events : List Event) :
    (dispatch.after events).RecordedBy (recorder.after (events.map Event.recorded)) := by
  induction events generalizing dispatch recorder with
  | nil => exact recorded
  | cons event later ih => exact ih (recordedBy_next recorded event)

theorem answered_recorded (recorded : dispatch.RecordedBy recorder) (events : List Event) :
    recorder.noted answered (events.map Event.recorded) = dispatch.noted answered events := by
  induction events generalizing dispatch recorder with
  | nil => rfl
  | cons event later ih =>
      have same : Dispatch.answered recorder event.recorded = Dispatch.answered dispatch event := by
        unfold Dispatch.answered
        rw [(recordedBy_next recorded event).broker]
        cases event with
        | asks operation =>
            simp [Event.recorded, Event.operation?, Exchange.perform, recorded.broker]
        | _ => rfl
      rw [List.map_cons, noted, noted, same, ih (recordedBy_next recorded event)]

theorem connections_le_next (dispatch : Dispatch) (event : Event) :
    dispatch.exchange.outlets.length ≤ (dispatch.next event).exchange.outlets.length := by
  cases event with
  | opens room => simp [next, Exchange.openConnection]
  | asks operation => exact le_rfl
  | sends =>
      simp only [next]
      split <;> simp [deliver_eq]
  | uses used use =>
      simp only [next]
      split <;> simp [use_eq]

/-- The connection and its recorder are sent the same messages. -/
theorem map_fst_handed_recorded (recorded : dispatch.RecordedBy recorder)
    (opened : connection.number < dispatch.exchange.outlets.length) (events : List Event) :
    (recorder.noted (handed connection) (events.map Event.recorded)).map Prod.fst =
      (dispatch.noted (handed connection) events).map Prod.fst := by
  induction events generalizing dispatch recorder with
  | nil => rfl
  | cons event later ih =>
      have same : (Dispatch.handed connection recorder event.recorded).map Prod.fst =
          (Dispatch.handed connection dispatch event).map Prod.fst := by
        cases event with
        | sends =>
            -- Both find an outlet, though not the same one.
            have there : (dispatch.exchange.outlet? connection).isSome = true := by
              simpa [Exchange.outlet?] using opened
            have thereToo : (recorder.exchange.outlet? connection).isSome = true := by
              simpa [Exchange.outlet?, recorded.connections] using opened
            obtain ⟨outlet, found⟩ := Option.isSome_iff_exists.mp there
            obtain ⟨outletToo, foundToo⟩ := Option.isSome_iff_exists.mp thereToo
            simp only [Dispatch.handed, Event.recorded, recorded.pending, found, foundToo]
            cases dispatch.pending with
            | nil => rfl
            | cons delivery later =>
                by_cases same : delivery.connection = connection <;> simp [same]
        | _ => rfl
      have still := Nat.lt_of_lt_of_le opened (connections_le_next dispatch event)
      simp only [List.map_cons, noted, List.map_append, same,
        ih (recordedBy_next recorded event) still]

end Recorders

section Run

theorem broker_after (dispatch : Dispatch) (events : List Event) :
    (dispatch.after events).exchange.broker =
      dispatch.exchange.broker.run (events.filterMap Event.operation?) := by
  induction events generalizing dispatch with
  | nil => rfl
  | cons event later ih =>
      change ((dispatch.next event).after later).exchange.broker = _
      rw [ih, broker_next]
      cases asked : event.operation? with
      | none => simp [asked, Broker.run]
      | some operation => simp [asked, Broker.run]

theorem after_sends (exchange : Exchange) (batch : List Delivery) :
    after ⟨exchange, batch⟩ (batch.map fun _ => .sends) =
      ⟨batch.foldl Exchange.deliver exchange, []⟩ := by
  induction batch generalizing exchange with
  | nil => rfl
  | cons delivery later ih => exact ih (exchange.deliver delivery)

/-- Once all that an operation hands over is sent, it is as if it had been performed at once. -/
theorem after_asks_sends (exchange : Exchange) (operation : Operation) :
    after ⟨exchange, []⟩ (.asks operation ::
        (exchange.broker.perform operation).deliveries.map fun _ => .sends) =
      ⟨(exchange.perform operation).1, []⟩ :=
  after_sends { exchange with broker := (exchange.broker.perform operation).broker } _

/-- The connection that was opened last lacks, compared with its recorder, what found it full or
closed and what waited when it was closed. -/
structure LosesItsOwn (room : Option Nat) (connection : ConnectionId) (opened : Dispatch)
    (events : List Event) (outlet recorder : Outlet) : Prop where
  recorded : recorder.waiting = (opened.noted (handed connection) events).map Prod.fst
  kept : opened.noted (taken connection) events ++ opened.noted (discarded connection) events ++
      outlet.waiting =
    ((opened.noted (handed connection) events).filter fun entry =>
      entry.2.takesMore room).map Prod.fst
  closed : outlet.closed = true ↔ room ≠ none ∧ .uses connection .closes ∈ events
  nothingDiscarded : outlet.closed = false → opened.noted (discarded connection) events = []
  nothingWaits : outlet.closed = true → outlet.waiting = []
  neverFails : room = none → outlet = recorder

theorem losesItsOwn_of_accounts {room : Option Nat} {opened openedRecorder : Dispatch}
    {events recordedEvents : List Event} {outlet recorder : Outlet} {closes : Prop}
    (own : (Outlet.ofRoom room).Account (opened.noted (handed connection) events)
      (opened.noted (taken connection) events) (opened.noted (discarded connection) events)
      ((Outlet.ofRoom room).capacity ≠ none ∧ .uses connection .closes ∈ events) outlet)
    (recorders : Outlet.recorder.Account
      (openedRecorder.noted (handed connection) recordedEvents)
      (openedRecorder.noted (taken connection) recordedEvents)
      (openedRecorder.noted (discarded connection) recordedEvents) closes recorder)
    (same : (openedRecorder.noted (handed connection) recordedEvents).map Prod.fst =
      (opened.noted (handed connection) events).map Prod.fst) :
    LosesItsOwn room connection opened events outlet recorder := by
  have recorded := recorders.after_recorder
  rw [same] at recorded
  have balance := own.balance
  rw [own.admitted_room] at balance
  refine ⟨by rw [recorded], ?_, ?_, own.nothingDiscarded, own.nothingWaits, ?_⟩
  · cases room <;> exact balance
  · rw [own.closed]
    cases room <;> simp [Outlet.ofRoom, Outlet.recorder, Outlet.channel]
  · rintro rfl
    exact own.after_recorder.trans recorded.symm

theorem after_append (dispatch : Dispatch) (earlier later : List Event) :
    dispatch.after (earlier ++ later) = (dispatch.after earlier).after later :=
  List.foldl_append

theorem recordedBy_start (settings : BrokerSettings) :
    (start settings).RecordedBy (start settings) :=
  ⟨rfl, rfl, rfl⟩

/-- However messages are received and connections are closed while the broker works, it answers and
goes on as if every message arrived, and it lets nothing wait for a client that is here.  Each
connection, from the moment in which it is opened, loses messages by its own account only.  That
operations are performed at once is covered: it is the same as to ask and then to send the batch. -/
theorem loses_only_its_own (settings : BrokerSettings) :
    (∀ exchange operation, after ⟨exchange, []⟩ (.asks operation ::
        (exchange.broker.perform operation).deliveries.map fun _ => .sends) =
      ⟨(exchange.perform operation).1, []⟩) ∧
    (∀ events, (start settings).noted answered (events.map Event.recorded) =
      (start settings).noted answered events) ∧
    (∀ events client connection,
      let broker := ((start settings).after events).exchange.broker
      broker.registry.connection? client = some connection → broker.registry.waiting client = []) ∧
    ∀ earlier room later,
      let events := earlier ++ .opens room :: later
      let before := (start settings).after earlier
      let connection : ConnectionId := ⟨before.exchange.outlets.length⟩
      ∃ outlet recorder,
        ((start settings).after events).exchange.outlet? connection = some outlet ∧
        ((start settings).after (events.map Event.recorded)).exchange.outlet? connection =
          some recorder ∧
        LosesItsOwn room connection (before.next (.opens room)) later outlet recorder := by
  refine ⟨after_asks_sends, answered_recorded (recordedBy_start settings),
    fun events client connection => ?_, fun earlier room later => ?_⟩
  · intro broker here
    have consistent : broker.Consistent := by
      rw [show broker = _ from broker_after (start settings) events]
      exact ((Broker.consistent_start settings).run _).consistent
    exact Broker.waiting_of_here consistent here
  · intro events before connection
    have recordedBefore := recordedBy_after (recordedBy_start settings) earlier
    have recordedOpened := recordedBy_next recordedBefore (.opens room)
    have found : (before.next (.opens room)).exchange.outlet? connection =
        some (.ofRoom room) := List.getElem?_concat_length
    have foundRecorder : (((start settings).after (earlier.map Event.recorded)).next
        (.opens none)).exchange.outlet? connection = some .recorder := by
      rw [show connection = ⟨_⟩ from congrArg ConnectionId.mk recordedBefore.connections.symm]
      exact List.getElem?_concat_length
    have opened : connection.number < (before.next (.opens room)).exchange.outlets.length :=
      (List.getElem?_eq_some_iff.mp found).1
    obtain ⟨outlet, reached, own⟩ := account_after found (Outlet.sound_ofRoom room) later
    obtain ⟨recorder, recorded, recorders⟩ :=
      account_after foundRecorder (Outlet.sound_ofRoom none) (later.map Event.recorded)
    refine ⟨outlet, recorder, ?_, ?_, ?_⟩
    · rw [after_append]
      exact reached
    · rw [List.map_append, after_append]
      exact recorded
    · exact losesItsOwn_of_accounts own recorders
        (map_fst_handed_recorded recordedOpened opened later)

end Run

/-- A connection with room for one message: the batch of the first two publications fits half, the
third message waits when the client closes, and the last one comes too late. -/
theorem loses_only_its_own_when_full_and_closed :
    let opening : Event := .opens (some 0)
    let publication (payload : Payload) : Event := .asks (.publish "t" payload .atLeastOnce false)
    let later : List Event := [.asks (.createSession "ann" ⟨0⟩),
      .asks (.subscribe "t" "ann" .atLeastOnce), publication [0], publication [1], .sends, .sends,
      .uses ⟨0⟩ .receives, publication [2], .sends, .uses ⟨0⟩ .closes, publication [3], .sends]
    let opened := (start default).next opening
    let message (payload : Payload) : Publish := .first "t" payload .atLeastOnce false
    let outlet : Outlet := ⟨some 1, [], true⟩
    let recorder : Outlet := ⟨none, [message [0], message [1], message [2], message [3]], false⟩
    opened.noted (taken ⟨0⟩) later = [message [0]] ∧
      opened.noted (discarded ⟨0⟩) later = [message [2]] ∧
      LosesItsOwn (some 0) ⟨0⟩ opened later outlet recorder ∧
      ((start default).after (opening :: later)).exchange.broker.registry.waiting "ann" = [] := by
  intro opening publication later opened message outlet recorder
  obtain ⟨_, _, nothingWaits, compared⟩ := loses_only_its_own default
  obtain ⟨reached, recorded, found, foundRecorder, loses⟩ := compared [] (some 0) later
  have outlet_eq : reached = outlet := Option.some.inj (found.symm.trans (by decide +kernel))
  have recorder_eq : recorded = recorder :=
    Option.some.inj (foundRecorder.symm.trans (by decide +kernel))
  rw [outlet_eq, recorder_eq] at loses
  exact ⟨by decide +kernel, by decide +kernel, loses,
    nothingWaits (opening :: later) "ann" ⟨0⟩ (by decide +kernel)⟩

end Dispatch

end TopicBroker

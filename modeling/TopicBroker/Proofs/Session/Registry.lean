import TopicBroker.Session.Registry
import TopicBroker.Proofs.Session.Waiting
import TopicBroker.Proofs.Topic.Validity

/-!
# Sessions in the registry

A sound session belongs to the client that it is kept for, lets no more
messages wait than it may, and lets none wait while its client is here.  Each
change of the registry concerns the session of one client only.  The closed
forms of the changes say when a change is refused and what it does otherwise.
-/

namespace TopicBroker

/-- A session that can be kept for a client: its backlog has the given capacity, and the topic of
its will is valid under the given limit on levels. -/
structure Session.Sound (capacity maxLevels : Nat) (client : String) (session : Session) :
    Prop where
  client : session.client = client
  capacity : session.backlog.capacity = capacity
  fits : session.backlog.Fits
  nothingWaits : session.isActive = true → session.backlog.messages = []
  will : ∀ will, session.will = some will → nameFault? maxLevels will.topic = none

namespace Session

variable {capacity maxLevels : Nat} {client : String} {session : Session}

/-- The session once its client is bound to a connection and has taken what waited. -/
def boundTo (session : Session) (link : Link) : Session :=
  { session with link := some link, backlog := { session.backlog with messages := [] } }

theorem sound_fresh (link : Link) : (fresh client link capacity).Sound capacity maxLevels client where
  client := rfl
  capacity := rfl
  fits := Backlog.fits_empty capacity
  nothingWaits _ := rfl
  will _ none := by cases none

theorem Sound.boundTo (sound : session.Sound capacity maxLevels client) (link : Link) :
    (session.boundTo link).Sound capacity maxLevels client where
  client := sound.client
  capacity := sound.capacity
  fits := Nat.zero_le _
  nothingWaits _ := rfl
  will := sound.will

theorem Sound.unbound (sound : session.Sound capacity maxLevels client) :
    ({ session with link := none } : Session).Sound capacity maxLevels client where
  client := sound.client
  capacity := sound.capacity
  fits := sound.fits
  nothingWaits here := by cases here
  will := sound.will

theorem Sound.entered (sound : session.Sound capacity maxLevels client) (clean : Bool)
    {will : Option Will}
    (valid : ∀ left, will = some left → nameFault? maxLevels left.topic = none) :
    ({ session with clean, will } : Session).Sound capacity maxLevels client where
  client := sound.client
  capacity := sound.capacity
  fits := sound.fits
  nothingWaits := sound.nothingWaits
  will := valid

theorem Sound.await (sound : session.Sound capacity maxLevels client) (messages : List Publish) :
    (session.await messages).Sound capacity maxLevels client := by
  unfold Session.await
  split
  case isTrue => exact sound
  case isFalse away =>
    refine ⟨sound.client, ?_, sound.fits.pushAll messages, fun here => absurd here away,
      sound.will⟩
    rw [Backlog.pushAll_eq sound.fits]
    exact sound.capacity

end Session

namespace Registry

/-- The messages that wait for a client; for a client without a session there are none. -/
def waiting (registry : Registry) (client : String) : List Publish :=
  ((registry.get? client).map fun session => session.backlog.messages).getD []

def erase (registry : Registry) (client : String) : Registry :=
  { registry with sessions := registry.sessions.erase client }

def counted (registry : Registry) : Registry :=
  { registry with nextToken := ⟨registry.nextToken.number + 1⟩ }

variable (registry : Registry) (client other : String) (session : Session)

@[simp]
theorem get?_empty (capacity : Nat) : (empty capacity).get? client = none :=
  Std.ExtTreeMap.getElem?_empty

@[simp]
theorem get?_counted : registry.counted.get? client = registry.get? client := rfl

theorem get?_put :
    (registry.put client session).get? other =
      if other = client then some session else registry.get? other := by
  simp only [get?, put, Std.ExtTreeMap.getElem?_insert, compare_eq_iff_eq, @eq_comm _ client]

theorem get?_erase :
    (registry.erase client).get? other =
      if other = client then none else registry.get? other := by
  simp only [get?, erase, Std.ExtTreeMap.getElem?_erase, compare_eq_iff_eq, @eq_comm _ client]

variable {registry client session}

theorem hasActive_iff :
    registry.hasActive client = true ↔
      ∃ session, registry.get? client = some session ∧ session.isActive = true := by
  unfold hasActive state? Session.state Session.isActive
  cases registry.get? client with
  | none => simp
  | some session => cases found : session.link <;> simp [found]

theorem hasPersisted_iff :
    registry.hasPersisted client = true ↔
      ∃ session, registry.get? client = some session ∧ session.link = none := by
  unfold hasPersisted state? Session.state
  cases registry.get? client with
  | none => simp
  | some session => cases found : session.link <;> simp [found]

theorem not_hasActive_of_away (found : registry.get? client = some session)
    (away : session.link = none) : registry.hasActive client = false := by
  simp [hasActive, state?, Session.state, found, away]

theorem hasActive_or_hasPersisted (found : registry.get? client = some session) :
    registry.hasActive client = true ∨ registry.hasPersisted client = true := by
  cases link : session.link with
  | none => exact Or.inr (hasPersisted_iff.mpr ⟨session, found, link⟩)
  | some here =>
      exact Or.inl (hasActive_iff.mpr ⟨session, found, by simp [Session.isActive, link]⟩)

theorem isCurrent_iff {token : Token} :
    registry.isCurrent client token = true ↔
      ∃ session link, registry.get? client = some session ∧ session.link = some link ∧
        link.token = token := by
  unfold isCurrent Session.token?
  cases registry.get? client with
  | none => simp
  | some session => cases found : session.link <;> simp [found]

/-- A client is bound to the connection that its session is linked to. -/
theorem connection?_eq_some_iff {connection : ConnectionId} :
    registry.connection? client = some connection ↔
      ∃ session link, registry.get? client = some session ∧ session.link = some link ∧
        link.connection = connection := by
  unfold connection? Session.connection?
  cases registry.get? client with
  | none => simp
  | some session => cases found : session.link <;> simp [found]

theorem connection?_of_get? (found : registry.get? client = some session) :
    registry.connection? client = session.connection? := by
  simp [connection?, found]

theorem connection?_eq (registry : Registry) (client : String) :
    registry.connection? client =
      ((registry.get? client).map Session.link).join.map Link.connection := by
  unfold connection? Session.connection?
  cases registry.get? client <;> rfl

theorem map_connection? {α : Type} (registry : Registry) (client : String)
    (onto : ConnectionId → α) :
    (registry.connection? client).map onto =
      (registry.get? client).bind fun session => session.link.map fun link => onto link.connection := by
  unfold connection? Session.connection?
  cases registry.get? client with
  | none => rfl
  | some session => exact Option.map_map onto Link.connection session.link

variable (registry client) (connection : ConnectionId)

theorem create_eq :
    registry.create client connection =
      if registry.hasActive client then .error (.alreadyActive client)
      else .ok (registry.counted.put client
        (Session.fresh client ⟨registry.nextToken, connection⟩ registry.capacity),
          registry.nextToken) :=
  rfl

variable {registry client} in
theorem resume_of_away (found : registry.get? client = some session) (away : session.link = none) :
    registry.resume client connection =
      .ok (registry.counted.put client (session.boundTo ⟨registry.nextToken, connection⟩),
        registry.nextToken, session.backlog.messages) := by
  simp only [resume, found, Session.isActive, away]
  rfl

variable {registry client} in
theorem resume_of_here (found : registry.get? client = some session)
    (here : session.isActive = true) :
    registry.resume client connection = .error (.alreadyActive session.client) := by
  simp only [resume, found, here, if_true]

theorem remove_eq :
    registry.remove client =
      match registry.get? client with
      | none => .error (.unknownClient client)
      | some session => .ok (registry.erase client, session) :=
  rfl

end Registry

end TopicBroker

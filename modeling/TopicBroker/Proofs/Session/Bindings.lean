import TopicBroker.Proofs.Session.Registry
import TopicBroker.Proofs.Since

/-!
# Tokens and the bindings they stand for

A run of changes to a registry issues the tokens one, two, three and so on, one
for each binding that succeeds.  A client holds the token of its latest binding
until its session is changed again.  A token that is held is below the next one
to be issued and is held by one client only, and a later binding takes a token
of its own, so a token that has been given up is never held again.
-/

namespace TopicBroker.Registry

/-- Something that can be asked of a registry. -/
inductive Change where
  | create (client : String) (connection : ConnectionId)
  | resume (client : String) (connection : ConnectionId)
  | suspend (client : String)
  | remove (client : String)
  deriving DecidableEq, Repr

/-- The client whose session is to be changed. -/
def Change.client : Change → String
  | create client _ | resume client _ | suspend client | remove client => client

/-- Make a change, and give the token if it is a binding. -/
def change (registry : Registry) : Change → Except SessionError (Registry × Option Token)
  | .create client connection =>
    (registry.create client connection).map fun (after, token) => (after, some token)
  | .resume client connection =>
    (registry.resume client connection).map fun (after, token, _) => (after, some token)
  | .suspend client => (registry.suspend client).map fun after => (after, none)
  | .remove client => (registry.remove client).map fun (after, _) => (after, none)

/-- The registry after a change, whether it is refused or not. -/
def next (registry : Registry) (asked : Change) : Registry :=
  match registry.change asked with
  | .ok (after, _) => after
  | .error _ => registry

/-- The registry after some changes. -/
def run (registry : Registry) (changes : List Change) : Registry := changes.foldl next registry

/-- The tokens of all bindings in a run that succeed, in order. -/
def issued (registry : Registry) : List Change → List Token
  | [] => []
  | asked :: changes =>
    match registry.change asked with
    | .ok (after, token?) => token?.toList ++ after.issued changes
    | .error _ => registry.issued changes

/-- The change binds the client under this token. -/
def BindsUnder (client : String) (token : Token) (registry : Registry) (asked : Change) : Prop :=
  asked.client = client ∧ ∃ after, registry.change asked = .ok (after, some token)

/-- The change is made to the session of the client: it is bound, suspended or removed. -/
def Touches (client : String) (registry : Registry) (asked : Change) : Prop :=
  asked.client = client ∧ ∃ done, registry.change asked = .ok done

/-- The token that a client holds. -/
def token? (registry : Registry) (client : String) : Option Token :=
  (registry.get? client).bind Session.token?

/-- What a change does to tokens: the client holds the one that is issued, or none. -/
structure Reissues (registry : Registry) (client : String) (token? : Option Token)
    (after : Registry) : Prop where
  held (other : String) :
    after.token? other = if other = client then token? else registry.token? other
  numbers : (token? = none ∧ after.nextToken = registry.nextToken) ∨
    (token? = some registry.nextToken ∧ after.nextToken = ⟨registry.nextToken.number + 1⟩)

variable {registry after : Registry} {client : String} {token : Token}

section Step

theorem isCurrent_iff_token? : registry.isCurrent client token = true ↔
    registry.token? client = some token := by
  simp [isCurrent, token?]

theorem token?_put (registry : Registry) (client : String) (session : Session) (other : String) :
    (registry.put client session).token? other =
      if other = client then session.token? else registry.token? other := by
  unfold token?
  rw [get?_put]
  split <;> rfl

theorem token?_erase (registry : Registry) (client other : String) :
    (registry.erase client).token? other =
      if other = client then none else registry.token? other := by
  unfold token?
  rw [get?_erase]
  split <;> rfl

/-- Every change is refused, or it reissues the token of its client. -/
theorem change_cases (registry : Registry) (asked : Change) :
    (∃ error, registry.change asked = .error error) ∨
      ∃ after token?, registry.change asked = .ok (after, token?) ∧
        registry.Reissues asked.client token? after := by
  cases asked with
  | create client connection =>
      simp only [change, create_eq]
      split
      case isTrue => exact Or.inl ⟨_, rfl⟩
      case isFalse =>
        exact Or.inr ⟨_, _, rfl, token?_put registry.counted client _, Or.inr ⟨rfl, rfl⟩⟩
  | resume client connection =>
      cases found : registry.get? client with
      | none => exact Or.inl ⟨_, by rw [change, resume, found]; rfl⟩
      | some session =>
          cases here : session.isActive with
          | true => exact Or.inl ⟨_, by rw [change, resume_of_here connection found here]; rfl⟩
          | false =>
              have away : session.link = none := by simpa [Session.isActive] using here
              rw [change, resume_of_away connection found away]
              exact Or.inr ⟨_, _, rfl, token?_put registry.counted client _, Or.inr ⟨rfl, rfl⟩⟩
  | suspend client =>
      cases found : registry.get? client with
      | none => exact Or.inl ⟨_, by rw [change, suspend, found]; rfl⟩
      | some session =>
          rw [change, suspend, found]
          exact Or.inr ⟨_, _, rfl, token?_put registry client _, Or.inl ⟨rfl, rfl⟩⟩
  | remove client =>
      rw [change, remove_eq]
      cases registry.get? client with
      | none => exact Or.inl ⟨_, rfl⟩
      | some session => exact Or.inr ⟨_, _, rfl, token?_erase registry client, Or.inl ⟨rfl, rfl⟩⟩

theorem token?_next (client : String) (token : Token) (asked : Change) :
    (registry.next asked).token? client = some token ↔
      BindsUnder client token registry asked ∨
        (registry.token? client = some token ∧ ¬ Touches client registry asked) := by
  unfold next BindsUnder Touches
  rcases change_cases registry asked with ⟨error, refused⟩ | ⟨after, token?, made, reissues⟩
  · simp [refused]
  · rw [made]
    simp only [reissues.held]
    by_cases same : client = asked.client
    · simp [same]
    · simp [same, Ne.symm same]

/-- A token that is held is below the next one, and one client holds it. -/
structure Exclusive (registry : Registry) : Prop where
  below (client : String) (token : Token) (held : registry.token? client = some token) :
    token.number < registry.nextToken.number
  holder (first second : String) (token : Token) (firstHolds : registry.token? first = some token)
    (secondHolds : registry.token? second = some token) : first = second

theorem exclusive_empty (capacity : Nat) : (empty capacity).Exclusive := by
  constructor <;> simp [token?]

namespace Reissues

variable {issued : Option Token} (reissues : registry.Reissues client issued after)
include reissues

theorem nextToken_le : registry.nextToken.number ≤ after.nextToken.number := by
  rcases reissues.numbers with ⟨_, same⟩ | ⟨_, following⟩
  · rw [same]
  · rw [following]
    exact Nat.le_succ _

/-- A token that was issued earlier is held by those who held it already. -/
theorem held_before {other : String} (held : after.token? other = some token)
    (old : token.number < registry.nextToken.number) : registry.token? other = some token := by
  rw [reissues.held] at held
  split at held
  case isFalse => exact held
  case isTrue =>
    rcases reissues.numbers with ⟨none, _⟩ | ⟨new, _⟩
    · rw [none] at held
      cases held
    · rw [new] at held
      cases held
      exact absurd old (Nat.lt_irrefl _)

theorem exclusive (exclusive : registry.Exclusive) : after.Exclusive := by
  have sorted {other : String} {token : Token} (held : after.token? other = some token) :
      registry.token? other = some token ∨
        (other = client ∧ token = registry.nextToken ∧
          after.nextToken.number = registry.nextToken.number + 1) := by
    rw [reissues.held] at held
    split at held
    case isFalse => exact Or.inl held
    case isTrue same =>
      rcases reissues.numbers with ⟨none, _⟩ | ⟨new, following⟩
      · rw [none] at held
        cases held
      · rw [new] at held
        exact Or.inr ⟨same, (Option.some.inj held).symm, by rw [following]⟩
  constructor
  · intro other token held
    rcases sorted held with before | ⟨_, rfl, following⟩
    · exact (exclusive.below other token before).trans_le reissues.nextToken_le
    · omega
  · intro first second token firstHolds secondHolds
    rcases sorted firstHolds with firstBefore | ⟨rfl, rfl, _⟩ <;>
      rcases sorted secondHolds with secondBefore | ⟨rfl, new, _⟩
    · exact exclusive.holder first second token firstBefore secondBefore
    · exact absurd (new ▸ exclusive.below first token firstBefore) (Nat.lt_irrefl _)
    · exact absurd (exclusive.below second _ secondBefore) (Nat.lt_irrefl _)
    · rfl

end Reissues

end Step

section Run

theorem next_cases (registry : Registry) (asked : Change) :
    (∃ error, registry.change asked = .error error ∧ registry.next asked = registry) ∨
      ∃ issued, registry.change asked = .ok (registry.next asked, issued) ∧
        registry.Reissues asked.client issued (registry.next asked) := by
  unfold next
  rcases change_cases registry asked with ⟨error, refused⟩ | ⟨after, issued, made, reissues⟩
  · rw [refused]
    exact Or.inl ⟨error, rfl, rfl⟩
  · rw [made]
    exact Or.inr ⟨issued, rfl, reissues⟩

theorem Exclusive.run (exclusive : registry.Exclusive) (changes : List Change) :
    (registry.run changes).Exclusive := by
  induction changes generalizing registry with
  | nil => exact exclusive
  | cons asked changes ih =>
      apply ih
      rcases next_cases registry asked with ⟨_, _, unchanged⟩ | ⟨_, _, reissues⟩
      · exact unchanged.symm ▸ exclusive
      · exact reissues.exclusive exclusive

/-- A token that was issued before a run is held after it only by those who held it before. -/
theorem held_before_run (changes : List Change)
    (held : (registry.run changes).token? client = some token)
    (old : token.number < registry.nextToken.number) : registry.token? client = some token := by
  induction changes generalizing registry with
  | nil => exact held
  | cons asked changes ih =>
      rcases next_cases registry asked with ⟨_, _, unchanged⟩ | ⟨_, _, reissues⟩
      · rw [← unchanged]
        exact ih held (unchanged.symm ▸ old)
      · exact reissues.held_before (ih held (old.trans_le reissues.nextToken_le)) old

/-- The tokens of a run are those that follow the ones issued before, without a gap. -/
theorem issued_eq (registry : Registry) (changes : List Change) :
    (registry.run changes).nextToken.number =
        registry.nextToken.number + (registry.issued changes).length ∧
      registry.issued changes =
        (List.range' registry.nextToken.number (registry.issued changes).length).map Token.mk := by
  induction changes generalizing registry with
  | nil => exact ⟨rfl, rfl⟩
  | cons asked changes ih =>
      have runs : registry.run (asked :: changes) = (registry.next asked).run changes := rfl
      obtain ⟨number, follows⟩ := ih (registry.next asked)
      rcases next_cases registry asked with ⟨_, refused, unchanged⟩ | ⟨issued, made, reissues⟩
      · simp only [runs, Registry.issued, refused]
        rw [unchanged] at number follows ⊢
        exact ⟨number, follows⟩
      · simp only [runs, Registry.issued, made]
        rcases reissues.numbers with ⟨rfl, same⟩ | ⟨rfl, following⟩
        · rw [same] at number follows
          exact ⟨number, follows⟩
        · rw [following] at number follows
          dsimp only at number follows
          refine ⟨?_, ?_⟩
          · rw [number, Option.toList_some, List.singleton_append, List.length_cons]
            omega
          · rw [Option.toList_some, List.singleton_append, List.length_cons, List.range'_succ,
              List.map_cons, ← follows]

/-- What the tokens of a run of changes tell, which begins without sessions. -/
structure NumbersBindings (capacity : Nat) (changes : List Change) : Prop where
  inOrder : (empty capacity).issued changes =
    (List.range' 1 ((empty capacity).issued changes).length).map Token.mk
  next : ((empty capacity).run changes).nextToken =
    ⟨((empty capacity).issued changes).length + 1⟩
  below : ∀ client session link, ((empty capacity).run changes).get? client = some session →
    session.link = some link →
      link.token.number < ((empty capacity).run changes).nextToken.number
  exclusive : ∀ first second token, ((empty capacity).run changes).isCurrent first token = true →
    ((empty capacity).run changes).isCurrent second token = true → first = second
  current : ∀ client token, ((empty capacity).run changes).isCurrent client token = true ↔
    HeldSince Registry.next (BindsUnder client token) (Touches client) (empty capacity) changes
  neverAgain : ∀ earlier between later, changes = earlier ++ (between ++ later) →
    ∀ client token, ((empty capacity).run earlier).isCurrent client token = true →
      ((empty capacity).run (earlier ++ between)).isCurrent client token = false →
        ∀ other, ((empty capacity).run changes).isCurrent other token = false

theorem run_append (registry : Registry) (earlier later : List Change) :
    registry.run (earlier ++ later) = (registry.run earlier).run later := by
  simp [run]

/-- The tokens of every run of changes number its bindings in the order in which they are made. -/
theorem numbersBindings (capacity : Nat) (changes : List Change) :
    NumbersBindings capacity changes := by
  have exclusive := (exclusive_empty capacity).run
  obtain ⟨number, follows⟩ := issued_eq (empty capacity) changes
  refine ⟨follows, ?_, fun client session link found here => ?_,
    fun first second token firstHolds secondHolds => ?_, fun client token => ?_, ?_⟩
  · rw [Nat.add_comm] at number
    exact congrArg Token.mk number
  · refine (exclusive changes).below client link.token ?_
    simp [token?, found, Session.token?, here]
  · rw [isCurrent_iff_token?] at firstHolds secondHolds
    exact (exclusive changes).holder first second token firstHolds secondHolds
  · rw [isCurrent_iff_token?]
    refine @holds_iff_heldSince _ _ Registry.next (BindsUnder client token) (Touches client)
      (empty capacity) (fun registry => registry.token? client = some token) (fun _ => True) ?_
      trivial (fun _ _ _ => trivial) (fun registry asked _ => token?_next client token asked)
      changes
    simp [token?]
  · rintro earlier between later rfl client token held notHeld other
    -- Going back from the end, the token is held in the middle already, and by the same client.
    rw [isCurrent_iff_token?] at held
    by_contra again
    rw [Bool.not_eq_false, isCurrent_iff_token?, ← List.append_assoc, run_append] at again
    have old := (exclusive earlier).below client token held
    have atEnd := (issued_eq ((empty capacity).run earlier) between).1
    rw [← run_append] at atEnd
    have middle := held_before_run later again (by omega)
    have beginning := middle
    rw [run_append] at beginning
    obtain rfl := (exclusive earlier).holder other client token
      (held_before_run between beginning old) held
    rw [← Bool.not_eq_true, isCurrent_iff_token?] at notHeld
    exact notHeld middle

end Run

end TopicBroker.Registry

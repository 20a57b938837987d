import Mathlib.Data.List.Induction
import TopicBroker.Proofs.Topic.LiveSubscriptions

/-!
# Histories of subscriptions

A history of changes decides which subscriptions are in place: those that were
made and neither remade nor removed since.  `InPlace` says so in terms of the
history alone, without any trie.  The main statement is that publishing a topic
after a history reaches exactly the subscriptions in place whose filter matches
the topic, each once, and that a text which is no topic name is refused.

Changes that are refused belong to a history like any others; they change
nothing.
-/

namespace TopicBroker.Subscriptions

/-- Something that can be done to the subscriptions. -/
inductive Change where
  | subscribe (filter client : String) (requested : Qos)
  | unsubscribe (filter client : String)
  | unsubscribeAll (client : String)
  deriving DecidableEq, Repr

/-- Whether a change, if it is not refused, decides anew about a filter and a client. -/
def Change.Concerns (filter client : String) : Change → Prop
  | subscribe changed changing _ => changed = filter ∧ changing = client
  | unsubscribe changed changing => changed = filter ∧ changing = client
  | unsubscribeAll changing => changing = client

/-- Make a change, unless it is refused. -/
def change (subscriptions : Subscriptions) : Change → Subscriptions
  | .subscribe filter client requested =>
    match subscriptions.subscribe filter client requested with
    | .error _ => subscriptions
    | .ok (changed, _) => changed
  | .unsubscribe filter client =>
    match subscriptions.unsubscribe filter client with
    | .error _ => subscriptions
    | .ok (changed, _) => changed
  | .unsubscribeAll client => (subscriptions.unsubscribeAll client).1

/-- The subscriptions after a history of changes. -/
def after (subscriptions : Subscriptions) (history : List Change) : Subscriptions :=
  history.foldl change subscriptions

/-- The subscription was made by a change of the history that was not refused, and no later change
concerns it. -/
def InPlace (maxQos : Qos) (maxLevels : Nat) (history : List Change)
    (subscription : Subscription) : Prop :=
  ∃ earlier requested later,
    history = earlier ++ .subscribe subscription.filter subscription.client requested :: later ∧
      filterFault? maxLevels subscription.filter = none ∧
      subscription.granted = min requested maxQos ∧
      ∀ change ∈ later, ¬ change.Concerns subscription.filter subscription.client

section Step

variable {subscriptions : Subscriptions}

theorem change_cases (change : Change) :
    subscriptions.change change = subscriptions ∨
      ∃ revise, subscriptions.Revises (subscriptions.change change) revise := by
  cases change with
  | subscribe filter client requested =>
      rcases subscribe_cases subscriptions filter client requested with
        ⟨fault, _, refused⟩ | ⟨_, reached, accepted, revises⟩
      · exact Or.inl (by simp [Subscriptions.change, refused])
      · exact Or.inr ⟨_, by simpa [Subscriptions.change, accepted] using revises⟩
  | unsubscribe filter client =>
      rcases unsubscribe_cases subscriptions filter client with
        ⟨fault, _, refused⟩ | ⟨_, reached, _, accepted, revises⟩
      · exact Or.inl (by simp [Subscriptions.change, refused])
      · exact Or.inr ⟨_, by simpa [Subscriptions.change, accepted] using revises⟩
  | unsubscribeAll client => exact Or.inr ⟨_, revises_unsubscribeAll subscriptions client⟩

theorem limits_change (change : Change) :
    (subscriptions.change change).maxLevels = subscriptions.maxLevels ∧
      (subscriptions.change change).maxQos = subscriptions.maxQos := by
  rcases change_cases change with unchanged | ⟨_, revises⟩
  · rw [unchanged]
    exact ⟨rfl, rfl⟩
  · exact ⟨revises.maxLevels, revises.maxQos⟩

theorem Sound.change (sound : subscriptions.Sound) (change : Change) :
    (subscriptions.change change).Sound := by
  cases change with
  | subscribe filter client requested =>
      cases outcome : subscriptions.subscribe filter client requested with
      | error _ => simpa [Subscriptions.change, outcome] using sound
      | ok reached => simpa [Subscriptions.change, outcome] using sound.subscribe outcome
  | unsubscribe filter client =>
      cases outcome : subscriptions.unsubscribe filter client with
      | error _ => simpa [Subscriptions.change, outcome] using sound
      | ok reached => simpa [Subscriptions.change, outcome] using sound.unsubscribe outcome
  | unsubscribeAll client => exact sound.unsubscribeAll client

/-- A change grants what it asks for, or takes away what it concerns, and leaves the rest. -/
theorem granted?_change (sound : subscriptions.Sound) (change : Change) (filter client : String)
    (granted : Qos) :
    (subscriptions.change change).granted? filter client = some granted ↔
      (∃ requested, change = .subscribe filter client requested ∧
        filterFault? subscriptions.maxLevels filter = none ∧
        granted = min requested subscriptions.maxQos) ∨
      (subscriptions.granted? filter client = some granted ∧
        ¬ change.Concerns filter client) := by
  cases change with
  | subscribe changed changing requested =>
      rcases subscribe_cases subscriptions changed changing requested with
        ⟨fault, faulty, refused⟩ | ⟨valid, reached, accepted, _⟩
      · have other (found : subscriptions.granted? filter client = some granted) :
            changed ≠ filter := sound.ne_of_faulty faulty found
        simp only [Subscriptions.change, refused, Change.Concerns, Change.subscribe.injEq]
        grind
      · simp only [Subscriptions.change, accepted, granted?_subscribe accepted, Change.Concerns,
          Change.subscribe.injEq]
        grind
  | unsubscribe changed changing =>
      rcases unsubscribe_cases subscriptions changed changing with
        ⟨fault, faulty, refused⟩ | ⟨valid, reached, _, accepted, _⟩
      · have other (found : subscriptions.granted? filter client = some granted) :
            changed ≠ filter := sound.ne_of_faulty faulty found
        simp only [Subscriptions.change, refused, Change.Concerns]
        grind
      · simp only [Subscriptions.change, accepted, granted?_unsubscribe accepted, Change.Concerns]
        grind
  | unsubscribeAll changing =>
      simp only [Subscriptions.change, granted?_unsubscribeAll, Change.Concerns]
      grind

end Step

section History

variable (maxQos : Qos) (maxLevels : Nat)

theorem inPlace_append_singleton (history : List Change) (change : Change)
    (subscription : Subscription) :
    InPlace maxQos maxLevels (history ++ [change]) subscription ↔
      (∃ requested, change = .subscribe subscription.filter subscription.client requested ∧
        filterFault? maxLevels subscription.filter = none ∧
        subscription.granted = min requested maxQos) ∨
      (InPlace maxQos maxLevels history subscription ∧
        ¬ change.Concerns subscription.filter subscription.client) := by
  constructor
  · rintro ⟨earlier, requested, later, split, valid, granted, untouched⟩
    rcases List.eq_nil_or_concat later with rfl | ⟨between, last, rfl⟩
    · obtain ⟨_, same⟩ := List.append_inj' split rfl
      exact Or.inl ⟨requested, List.singleton_inj.mp same, valid, granted⟩
    · rw [List.concat_eq_append] at split untouched
      rw [← List.cons_append, ← List.append_assoc] at split
      obtain ⟨rfl, same⟩ := List.append_inj' split rfl
      obtain rfl := List.singleton_inj.mp same
      refine Or.inr ⟨⟨earlier, requested, between, rfl, valid, granted, ?_⟩, ?_⟩
      · exact fun other member => untouched other (List.mem_append_left _ member)
      · exact untouched change (by simp)
  · rintro (⟨requested, rfl, valid, granted⟩ | ⟨⟨earlier, requested, later, rfl, valid, granted,
      untouched⟩, leaves⟩)
    · exact ⟨history, requested, [], rfl, valid, granted, by simp⟩
    · refine ⟨earlier, requested, later ++ [change], by simp, valid, granted, ?_⟩
      intro other member
      rcases List.mem_append.mp member with before | last
      · exact untouched other before
      · rw [List.mem_singleton.mp last]
        exact leaves

theorem after_append_singleton (subscriptions : Subscriptions) (history : List Change)
    (change : Change) :
    subscriptions.after (history ++ [change]) = (subscriptions.after history).change change := by
  simp [after]

theorem limits_after (subscriptions : Subscriptions) (history : List Change) :
    (subscriptions.after history).maxLevels = subscriptions.maxLevels ∧
      (subscriptions.after history).maxQos = subscriptions.maxQos := by
  induction history using List.reverseRecOn with
  | nil => exact ⟨rfl, rfl⟩
  | append_singleton earlier change ih =>
      rw [after_append_singleton, (limits_change change).1, (limits_change change).2]
      exact ih

theorem Sound.after {subscriptions : Subscriptions} (sound : subscriptions.Sound)
    (history : List Change) : (subscriptions.after history).Sound := by
  induction history using List.reverseRecOn with
  | nil => exact sound
  | append_singleton earlier change ih =>
      rw [after_append_singleton]
      exact ih.change change

/-- The trie grants after a history what the history alone says. -/
theorem granted?_after_eq_some_iff (history : List Change) (subscription : Subscription) :
    ((empty maxQos maxLevels).after history).granted? subscription.filter subscription.client =
        some subscription.granted ↔
      InPlace maxQos maxLevels history subscription := by
  induction history using List.reverseRecOn with
  | nil => simp [Subscriptions.after, granted?, InPlace]
  | append_singleton earlier change ih =>
      have sound := (sound_empty maxQos maxLevels).after earlier
      obtain ⟨sameLevels, sameQos⟩ := limits_after (empty maxQos maxLevels) earlier
      rw [after_append_singleton, granted?_change sound, inPlace_append_singleton, ih, sameLevels,
        sameQos]
      rfl

/-- A topic reaches the subscriptions in place that match it, each once, and nothing else. -/
theorem recipients_after (history : List Change) (topic : String) :
    match parseName maxLevels topic with
    | .error fault => ((empty maxQos maxLevels).after history).recipients topic = .error fault
    | .ok _ => ∃ reached : List Subscription, reached.Nodup ∧
        (∀ subscription, subscription ∈ reached ↔
          InPlace maxQos maxLevels history subscription ∧
            topicMatches subscription.filter topic = true) ∧
        ∃ recipients,
          ((empty maxQos maxLevels).after history).recipients topic = .ok recipients ∧
          recipients.Perm (reached.map fun subscription =>
            (subscription.client, subscription.granted)) := by
  have sound := (sound_empty maxQos maxLevels).after history
  have sameLevels : ((empty maxQos maxLevels).after history).maxLevels = maxLevels :=
    (limits_after (empty maxQos maxLevels) history).1
  rw [parseName_eq, recipients_eq, sameLevels]
  cases valid : nameFault? maxLevels topic with
  | some fault => rfl
  | none =>
      have plain : PlainLevels (levelsOf topic) := plainLevels_of_valid valid
      refine ⟨_, (nodup_live sound).filter _, ?_, _, rfl, (hits_perm sound plain).map _⟩
      intro subscription
      rw [List.mem_filter, mem_live sound, granted?_after_eq_some_iff]

end History

end TopicBroker.Subscriptions

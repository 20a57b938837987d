import TopicBroker.Topic.Retained
import TopicBroker.Proofs.Topic.Validity
import TopicBroker.Proofs.Trie.Contents

/-!
# What topics retain

A valid topic is retained or cleared without any effect on other topics, and a
text that is no topic name changes nothing.  So messages are kept on valid
topics only, and none of them is empty.  Likewise a selection fails only on a
text that is no topic filter, and otherwise it gives the message of each topic
that the filter matches.
-/

namespace TopicBroker.Retained

/-- The message that is kept at the end of a path. -/
def messageAt (retained : Retained) (path : List String) : Option RetainedMessage :=
  retained.trie.root.payloadAt path

/-- All retained messages, each with its topic. -/
def held (retained : Retained) : List (String × RetainedMessage) :=
  retained.trie.toList.filterMap fun (path, slot) => slot.map (joinLevels path, ·)

/-- Messages are kept only where a valid topic leads to, and they are not empty. -/
def Sound (retained : Retained) : Prop :=
  ∀ path message, retained.messageAt path = some message → message.payload ≠ [] ∧
    ∃ topic, nameFault? retained.maxLevels topic = none ∧ levelsOf topic = path

/-- What a topic retains after a message was retained on it: an empty payload leaves nothing. -/
def leftBy (payload : Payload) (qos : Qos) : Option RetainedMessage :=
  if payload.isEmpty then none else some ⟨payload, qos⟩

/-- The message that is asked for, if there is one, is retained on its topic. -/
def Takes (retained : Retained) (asked : Option (String × RetainedMessage)) (after : Retained) :
    Prop :=
  match asked with
  | none => after = retained
  | some (topic, message) => retained.retain topic message.payload message.qos = .ok after

variable {retained after : Retained} {topic : String} {payload : Payload} {qos : Qos}

theorem get?_eq (retained : Retained) (topic : String) :
    retained.get? topic =
      if nameFault? retained.maxLevels topic = none then retained.messageAt (levelsOf topic)
      else none := by
  unfold get?
  rw [parseName_eq]
  cases nameFault? retained.maxLevels topic with
  | some fault => rfl
  | none =>
      simp only [if_true, messageAt, Node.payloadAt, Trie.get?]
      cases retained.trie.root.find? (levelsOf topic) <;> rfl

@[simp]
theorem get?_empty (maxLevels : Nat) (topic : String) : (empty maxLevels).get? topic = none := by
  have nothing : (empty maxLevels).messageAt (levelsOf topic) = none := Node.payloadAt_idle _
  rw [get?_eq, nothing, ite_self]

theorem retain_cases (retained : Retained) (topic : String) (payload : Payload) (qos : Qos) :
    (∃ fault, nameFault? retained.maxLevels topic = some fault ∧
      retained.retain topic payload qos = .error (.invalidName fault)) ∨
    (nameFault? retained.maxLevels topic = none ∧ ∃ after,
      retained.retain topic payload qos = .ok after ∧ after.maxLevels = retained.maxLevels ∧
      ∀ path, after.messageAt path =
        if path = levelsOf topic then leftBy payload qos else retained.messageAt path) := by
  unfold retain
  rw [parseName_eq]
  cases nameFault? retained.maxLevels topic with
  | some fault => exact Or.inl ⟨fault, rfl, rfl⟩
  | none =>
      refine Or.inr ⟨rfl, ?_⟩
      by_cases empty : payload.isEmpty = true
      · refine ⟨_, if_pos empty, rfl, fun path => ?_⟩
        have keeps : KeepsVacant fun _ : Option RetainedMessage => none := fun _ _ => rfl
        apply (Node.payloadAt_update keeps (levelsOf topic) path _).trans
        simp [leftBy, empty, messageAt]
      · refine ⟨_, if_neg empty, rfl, fun path => ?_⟩
        apply (Node.payloadAt_upsert _ (levelsOf topic) path _).trans
        simp [leftBy, empty, messageAt]

theorem maxLevels_retain (accepted : retained.retain topic payload qos = .ok after) :
    after.maxLevels = retained.maxLevels := by
  rcases retain_cases retained topic payload qos with
    ⟨fault, _, refused⟩ | ⟨_, reached, reaches, sameLevels, _⟩
  · rw [refused] at accepted
    cases accepted
  · rw [reaches] at accepted
    cases accepted
    exact sameLevels

theorem get?_retain (accepted : retained.retain topic payload qos = .ok after) (other : String) :
    after.get? other = if other = topic then leftBy payload qos else retained.get? other := by
  rcases retain_cases retained topic payload qos with
    ⟨fault, _, refused⟩ | ⟨valid, reached, reaches, sameLevels, messages⟩
  · rw [refused] at accepted
    cases accepted
  · rw [reaches] at accepted
    cases accepted
    rw [get?_eq, get?_eq, sameLevels, messages]
    by_cases same : other = topic
    · rw [same, if_pos valid, if_pos rfl, if_pos rfl]
    · have different : levelsOf other ≠ levelsOf topic := fun equal =>
        same (levelsOf_injective equal)
      rw [if_neg different, if_neg same]

/-- What a valid filter selects. -/
def selected (retained : Retained) (filter : String) (qos : Qos) :
    List (String × RetainedMessage) :=
  (retained.trie.select (levelsOf filter)).filterMap fun (path, slot) =>
    slot.map fun message => (joinLevels path, { message with qos := min message.qos qos })

theorem select_eq (retained : Retained) (filter : String) (qos : Qos) :
    retained.select filter qos =
      match filterFault? retained.maxLevels filter with
      | some fault => .error (.invalidFilter fault)
      | none => .ok (retained.selected filter qos) := by
  unfold select
  rw [parseFilter_eq]
  cases filterFault? retained.maxLevels filter <;> rfl

theorem messageAt_eq_some_iff {path : List String} {message : RetainedMessage} :
    retained.messageAt path = some message ↔ retained.trie.root.Stores path (some message) := by
  simp [Node.Stores, messageAt, isVacant]

theorem sound_empty (maxLevels : Nat) : (empty maxLevels).Sound := by
  intro path message kept
  have nothing : (empty maxLevels).messageAt path = none := Node.payloadAt_idle path
  rw [nothing] at kept
  cases kept

theorem Sound.retain (sound : retained.Sound)
    (accepted : retained.retain topic payload qos = .ok after) : after.Sound := by
  rcases retain_cases retained topic payload qos with
    ⟨fault, _, refused⟩ | ⟨valid, reached, reaches, sameLevels, messages⟩
  · rw [refused] at accepted
    cases accepted
  · rw [reaches] at accepted
    cases accepted
    intro path message kept
    rw [messages] at kept
    rw [sameLevels]
    split at kept
    case isTrue same =>
      unfold leftBy at kept
      split at kept
      case isTrue => cases kept
      case isFalse occupied =>
        cases kept
        exact ⟨by simpa using occupied, topic, valid, same.symm⟩
    case isFalse => exact sound path message kept

theorem messageAt_of_listed {path : List String} {message : RetainedMessage}
    (listed : (path, some message) ∈ retained.trie.toList) :
    retained.messageAt path = some message :=
  messageAt_eq_some_iff.mpr ((Node.mem_entries retained.trie.ordered).mp listed)

theorem Sound.takes (sound : retained.Sound) {asked : Option (String × RetainedMessage)}
    (takes : retained.Takes asked after) : after.Sound := by
  cases asked with
  | none => exact takes ▸ sound
  | some entry => exact sound.retain takes

section Sound

variable {message : RetainedMessage} (sound : retained.Sound)
include sound

theorem Sound.levelsOf_joinLevels {path : List String}
    (kept : retained.messageAt path = some message) : levelsOf (joinLevels path) = path := by
  obtain ⟨_, name, _, rfl⟩ := sound path message kept
  rw [joinLevels_levelsOf]

/-- Everything that is kept can be read by its topic. -/
theorem Sound.get?_joinLevels {path : List String}
    (kept : retained.messageAt path = some message) :
    retained.get? (joinLevels path) = some message := by
  obtain ⟨_, name, valid, rfl⟩ := sound path message kept
  rw [joinLevels_levelsOf, get?_eq, if_pos valid]
  exact kept

theorem Sound.of_get? (kept : retained.get? topic = some message) :
    message.payload ≠ [] ∧ nameFault? retained.maxLevels topic = none := by
  rw [get?_eq] at kept
  split at kept
  case isTrue valid => exact ⟨(sound _ message kept).1, valid⟩
  case isFalse => cases kept

theorem mem_held : (topic, message) ∈ retained.held ↔ retained.get? topic = some message := by
  unfold held
  simp only [List.mem_filterMap, Option.map_eq_some_iff, Prod.exists, Prod.mk.injEq]
  constructor
  · rintro ⟨path, _, listed, _, rfl, rfl, rfl⟩
    exact sound.get?_joinLevels (messageAt_of_listed listed)
  · intro kept
    have name := (sound.of_get? kept).2
    rw [get?_eq, if_pos name] at kept
    exact ⟨levelsOf topic, some message, (Node.mem_entries retained.trie.ordered).mpr
      (messageAt_eq_some_iff.mp kept), message, rfl, joinLevels_levelsOf topic, rfl⟩

theorem nodup_topics : (retained.held.map Prod.fst).Nodup := by
  apply nodup_names (Node.nodup_paths retained.trie.ordered) id
  rintro path _ message listed rfl
  exact sound.levelsOf_joinLevels (messageAt_of_listed listed)

/-- A valid filter selects the messages of the topics that it matches, in the order in which they are
listed. -/
theorem selected_eq {filter : String} (valid : filterFault? retained.maxLevels filter = none) :
    retained.selected filter qos =
      (retained.held.filter fun entry => topicMatches filter entry.1).map fun entry =>
        (entry.1, ⟨entry.2.payload, min entry.2.qos qos⟩) := by
  have selects : retained.trie.select (levelsOf filter) =
      retained.trie.toList.filter fun entry => matchesLevels (levelsOf filter) entry.1 :=
    Node.select_eq_filter retained.trie.ordered (multiOnlyLast_of_valid valid)
  rw [selected, held, selects, List.filterMap_filter, List.filter_filterMap, List.map_filterMap]
  refine List.filterMap_congr fun entry listed => ?_
  obtain ⟨path, slot⟩ := entry
  cases slot with
  | none => simp
  | some stored =>
      have same := sound.levelsOf_joinLevels (messageAt_of_listed listed)
      cases applies : matchesLevels (levelsOf filter) path <;> simp [topicMatches, same, applies]

theorem nodup_selected {filter : String} (valid : filterFault? retained.maxLevels filter = none)
    (qos : Qos) : ((retained.selected filter qos).map Prod.fst).Nodup := by
  rw [selected_eq sound valid, List.map_map]
  exact (List.filter_sublist.map Prod.fst).nodup (nodup_topics sound)

theorem mem_selected {filter : String} (valid : filterFault? retained.maxLevels filter = none) :
    (topic, message) ∈ retained.selected filter qos ↔
      topicMatches filter topic = true ∧
        ∃ stored, retained.get? topic = some stored ∧
          message = ⟨stored.payload, min stored.qos qos⟩ := by
  simp only [selected_eq sound valid, List.mem_map, List.mem_filter, Prod.exists, mem_held sound,
    Prod.mk.injEq]
  constructor
  · rintro ⟨_, stored, ⟨kept, applies⟩, rfl, rfl⟩
    exact ⟨applies, stored, kept, rfl⟩
  · rintro ⟨applies, stored, kept, rfl⟩
    exact ⟨topic, stored, ⟨kept, applies⟩, rfl, rfl⟩

end Sound

end TopicBroker.Retained

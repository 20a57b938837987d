import TopicBroker.Proofs.Topic.Grammar
import TopicBroker.Proofs.Topic.RetainedTable
import TopicBroker.Proofs.Topic.SubscriptionHistory
import TopicBroker.Proofs.Trie.FiniteMap

/-!
# Texts as addresses of nodes

A text and its levels stand for each other, so a valid text is the address of
one node of a trie, and no other valid text is an address of this node.  What is
written at one of them is not seen at the other.

The way back is taken where filters and topics are shown: a walk over the trie
knows the path of each node, and joins its levels.  Since something is only ever
stored where a valid text leads to, the text that is shown is accepted again by the
limits of the same trie, and it leads to the node that it was read from.
-/

namespace TopicBroker

/-- Two paths end at different nodes, and what is written at the first is not seen at the second. -/
structure Trie.Apart {α : Type} [Vacancy α] (trie : Trie α) (first second : List String) :
    Prop where
  ne : first ≠ second
  upsert {β : Type} (change : α → α × β) :
    (trie.upsert first change).1.stored? second = trie.stored? second
  update {β : Type} (change : α → α × β) :
    (trie.update first change).1.stored? second = trie.stored? second

theorem Trie.apart_of_ne {α : Type} [Vacancy α] (trie : Trie α) {first second : List String}
    (different : first ≠ second) : trie.Apart first second where
  ne := different
  upsert change := by rw [trie.stored?_upsert, if_neg (Ne.symm different)]
  update change := by rw [trie.stored?_update, if_neg (Ne.symm different)]

namespace Subscriptions

/-- The paths of the nodes that hold a client, each with the guarantee that is granted there. -/
def nodesOf (subscriptions : Subscriptions) (client : String) : List (List String × Qos) :=
  subscriptions.trie.toList.filterMap fun (path, subscribers) =>
    subscribers[client]?.map (path, ·)

/-- The filters of a client are the texts of the nodes that hold it, and each of these texts leads
back to its node. -/
structure LeadsBack (subscriptions : Subscriptions) (client : String) : Prop where
  filters : subscriptions.filtersOf client =
    (subscriptions.nodesOf client).map fun node => (joinLevels node.1, node.2)
  holds (path : List String) (granted : Qos) : (path, granted) ∈ subscriptions.nodesOf client ↔
    ∃ subscribers : Subscribers, subscriptions.trie.get? path = some subscribers ∧
      subscribers[client]? = some granted
  parses (path : List String) (granted : Qos)
    (member : (path, granted) ∈ subscriptions.nodesOf client) :
    parseFilter subscriptions.maxLevels (joinLevels path) = .ok path
  finds (path : List String) (granted : Qos)
    (member : (path, granted) ∈ subscriptions.nodesOf client) :
    subscriptions.subscribersOf? (joinLevels path) = subscriptions.trie.get? path

variable {subscriptions : Subscriptions} {client : String}

theorem mem_nodesOf {path : List String} {granted : Qos} :
    (path, granted) ∈ subscriptions.nodesOf client ↔
      ∃ subscribers : Subscribers, subscriptions.trie.get? path = some subscribers ∧
        subscribers[client]? = some granted := by
  simp only [nodesOf, List.mem_filterMap, Option.map_eq_some_iff, Prod.exists, Prod.mk.injEq,
    Trie.toList, Node.mem_entries subscriptions.trie.ordered, Trie.stores_iff_get?]
  constructor
  · rintro ⟨_, subscribers, ⟨found, _⟩, _, present, rfl, rfl⟩
    exact ⟨subscribers, found, present⟩
  · rintro ⟨subscribers, found, present⟩
    have occupied : subscribers.isEmpty = false := by
      rw [Bool.eq_false_iff, ne_eq, Std.ExtTreeMap.isEmpty_iff]
      rintro rfl
      simp at present
    exact ⟨path, subscribers, ⟨found, occupied⟩, granted, present, rfl, rfl⟩

theorem Sound.parseFilter_joinLevels (sound : subscriptions.Sound) {path : List String}
    (member : client ∈ subscriptions.subscribersAt path) :
    parseFilter subscriptions.maxLevels (joinLevels path) = .ok path := by
  obtain ⟨filter, valid, rfl⟩ := sound path client member
  rw [joinLevels_levelsOf]
  exact parseFilter_eq_ok_iff.mpr ⟨valid, rfl⟩

theorem Sound.leadsBack (sound : subscriptions.Sound) (client : String) :
    subscriptions.LeadsBack client := by
  have parses : ∀ path granted, (path, granted) ∈ subscriptions.nodesOf client →
      parseFilter subscriptions.maxLevels (joinLevels path) = .ok path := by
    intro path granted member
    obtain ⟨subscribers, found, present⟩ := mem_nodesOf.mp member
    have here : subscriptions.subscribersAt path = subscribers := by
      rw [subscribersAt, Node.payloadAt]
      exact congrArg (Option.getD · Vacancy.vacant) found
    have listed : client ∈ subscriptions.subscribersAt path := by
      rw [here, Std.ExtTreeMap.mem_iff_isSome_getElem?, present]
      rfl
    exact sound.parseFilter_joinLevels listed
  refine ⟨?_, fun path granted => mem_nodesOf, parses, fun path granted member => ?_⟩
  · rw [filtersOf, nodesOf, List.map_filterMap]
    simp only [Option.map_map, Function.comp_def]
  · rw [subscribersOf?, parses path granted member]

end Subscriptions

namespace Retained

/-- The paths of the nodes that a filter selects, each with the message that is sent for it. -/
def nodesOf (retained : Retained) (levels : List String) (qos : Qos) :
    List (List String × RetainedMessage) :=
  (retained.trie.select levels).filterMap fun (path, slot) =>
    slot.map fun message => (path, { message with qos := min message.qos qos })

/-- The topics of a selection are the texts of the selected nodes, and each of these texts leads
back to its node. -/
structure LeadsBack (retained : Retained) (filter : String) (levels : List String) (qos : Qos) :
    Prop where
  topics : retained.select filter qos =
    .ok ((retained.nodesOf levels qos).map fun node => (joinLevels node.1, node.2))
  holds (path : List String) (message : RetainedMessage)
    (member : (path, message) ∈ retained.nodesOf levels qos) :
    ∃ stored, retained.trie.get? path = some (some stored) ∧
      message = ⟨stored.payload, min stored.qos qos⟩
  parses (path : List String) (message : RetainedMessage)
    (member : (path, message) ∈ retained.nodesOf levels qos) :
    parseName retained.maxLevels (joinLevels path) = .ok path
  finds (path : List String) (message : RetainedMessage)
    (member : (path, message) ∈ retained.nodesOf levels qos) :
    some (retained.get? (joinLevels path)) = retained.trie.get? path

variable {retained : Retained} {filter : String} {levels : List String}

theorem Sound.parseName_joinLevels (sound : retained.Sound) {path : List String}
    {message : RetainedMessage} (kept : retained.messageAt path = some message) :
    parseName retained.maxLevels (joinLevels path) = .ok path := by
  obtain ⟨_, topic, valid, rfl⟩ := sound path message kept
  rw [joinLevels_levelsOf]
  exact parseName_eq_ok_iff.mpr ⟨valid, rfl⟩

theorem Sound.leadsBack (sound : retained.Sound)
    (parses : parseFilter retained.maxLevels filter = .ok levels) (qos : Qos) :
    retained.LeadsBack filter levels qos := by
  obtain ⟨valid, rfl⟩ := parseFilter_eq_ok_iff.mp parses
  have holds : ∀ path message, (path, message) ∈ retained.nodesOf (levelsOf filter) qos →
      ∃ stored, retained.trie.get? path = some (some stored) ∧
        message = ⟨stored.payload, min stored.qos qos⟩ := by
    intro path message member
    obtain ⟨⟨_, slot⟩, selected, kept⟩ := List.mem_filterMap.mp member
    obtain ⟨stored, rfl, same⟩ := Option.map_eq_some_iff.mp kept
    obtain ⟨rfl, rfl⟩ := Prod.mk.inj same
    have exactly := retained.trie.selectsExactly (multiOnlyLast_of_valid valid)
    exact ⟨stored, ((exactly.mem _ _).mp selected).1, rfl⟩
  have parsesBack : ∀ path message, (path, message) ∈ retained.nodesOf (levelsOf filter) qos →
      parseName retained.maxLevels (joinLevels path) = .ok path := by
    intro path message member
    obtain ⟨stored, found, _⟩ := holds path message member
    have kept : retained.messageAt path = some stored :=
      congrArg (Option.getD · Vacancy.vacant) found
    exact sound.parseName_joinLevels kept
  refine ⟨?_, holds, parsesBack, fun path message member => ?_⟩
  · rw [select_eq, valid, selected, nodesOf, List.map_filterMap]
    simp only [Option.map_map, Function.comp_def]
  · obtain ⟨stored, found, _⟩ := holds path message member
    rw [get?, parsesBack path message member]
    simp only [found, Option.join_some]

end Retained

/-- Texts and level lists stand for each other, as do valid texts and the nodes of the tries that
histories leave behind. -/
structure AddressesNodes (maxQos : Qos) (maxLevels : Nat) : Prop where
  cut (levels : List String) (nonempty : levels ≠ [])
    (slashFree : ∀ level ∈ levels, '/' ∉ level.toList) : levelsOf (joinLevels levels) = levels
  joined (text : String) : joinLevels (levelsOf text) = text
  filtersApart (first second : String) (different : first ≠ second)
    (firstPath secondPath : List String) (firstParses : parseFilter maxLevels first = .ok firstPath)
    (secondParses : parseFilter maxLevels second = .ok secondPath) (trie : Trie Subscribers) :
    trie.Apart firstPath secondPath
  topicsApart (first second : String) (different : first ≠ second)
    (firstPath secondPath : List String) (firstParses : parseName maxLevels first = .ok firstPath)
    (secondParses : parseName maxLevels second = .ok secondPath)
    (trie : Trie (Option RetainedMessage)) : trie.Apart firstPath secondPath
  filtersBack (history : List Subscriptions.Change) (client : String) :
    ((Subscriptions.empty maxQos maxLevels).after history).LeadsBack client
  topicsBack (history : List (String × RetainedMessage)) (filter : String) (levels : List String)
    (parses : parseFilter maxLevels filter = .ok levels) (qos : Qos) :
    ((Retained.empty maxLevels).after history).LeadsBack filter levels qos

/-- Valid texts are addresses of nodes: different ones never lead to the same node, and what is
shown of a node leads back to it. -/
theorem texts_address_nodes (maxQos : Qos) (maxLevels : Nat) :
    AddressesNodes maxQos maxLevels where
  cut _ := levelsOf_joinLevels
  joined := joinLevels_levelsOf
  filtersApart first second different _ _ firstParses secondParses trie := by
    obtain ⟨_, rfl⟩ := parseFilter_eq_ok_iff.mp firstParses
    obtain ⟨_, rfl⟩ := parseFilter_eq_ok_iff.mp secondParses
    exact trie.apart_of_ne (levelsOf_injective.ne different)
  topicsApart first second different _ _ firstParses secondParses trie := by
    obtain ⟨_, rfl⟩ := parseName_eq_ok_iff.mp firstParses
    obtain ⟨_, rfl⟩ := parseName_eq_ok_iff.mp secondParses
    exact trie.apart_of_ne (levelsOf_injective.ne different)
  filtersBack history client :=
    ((Subscriptions.sound_empty maxQos maxLevels).after history).leadsBack client
  topicsBack history filter levels parses qos := by
    have sameLevels := Retained.maxLevels_after history (Retained.empty maxLevels)
    have sound := (Retained.represents_after maxLevels history).sound
    exact sound.leadsBack (sameLevels.symm ▸ parses) qos

-- No levels at all and one empty level have the same text, which is cut into the latter.
example : joinLevels [] = joinLevels [""] ∧ levelsOf (joinLevels []) = [""] := by
  decide +kernel

end TopicBroker

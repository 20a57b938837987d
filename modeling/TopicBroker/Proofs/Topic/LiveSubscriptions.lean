import TopicBroker.Topic.Subscriptions
import TopicBroker.Proofs.Topic.Validity

/-!
# Subscriptions in place

The subscriptions of all clients can be read as a flat list of filters, clients
and granted guarantees.  `Subscriptions.live` is this list, and
`Subscriptions.granted?` looks up one filter and client in it.  Every change of
the subscriptions is described by what it does to the subscribers of each path.

A topic is published to the live subscriptions whose filter matches it.  Those
of one client are found in the order of their search keys.
-/

namespace TopicBroker

/-- The subscription of one client to one filter. -/
structure Subscription where
  filter : String
  client : String
  granted : Qos
  deriving DecidableEq, Repr

namespace Subscribers

/-- Nothing is kept where nobody is subscribed. -/
theorem isVacant_iff {subscribers : Subscribers} : isVacant subscribers = true ↔ subscribers = ∅ :=
  Std.ExtTreeMap.isEmpty_iff

instance : UniqueVacancy Subscribers where
  eq_vacant := isVacant_iff.mp

theorem keepsVacant_erase (client : String) :
    KeepsVacant fun subscribers : Subscribers => subscribers.erase client := by
  intro subscribers vacant
  rw [isVacant_iff.mp vacant]
  exact isVacant_iff.mpr Std.ExtTreeMap.erase_empty

end Subscribers

namespace Subscriptions

/-- The subscriptions that a path and its clients stand for. -/
def subscriptionsOf (entry : List String × Subscribers) : List Subscription :=
  entry.2.toList.map fun subscriber => ⟨joinLevels entry.1, subscriber.1, subscriber.2⟩

/-- All subscriptions that are in place. -/
def live (subscriptions : Subscriptions) : List Subscription :=
  subscriptions.trie.toList.flatMap subscriptionsOf

/-- The clients that are kept at the end of a path. -/
def subscribersAt (subscriptions : Subscriptions) (path : List String) : Subscribers :=
  subscriptions.trie.root.payloadAt path

/-- The guarantee that a client is granted on a filter. -/
def granted? (subscriptions : Subscriptions) (filter client : String) : Option Qos :=
  (subscriptions.subscribersAt (levelsOf filter))[client]?

/-- Clients are kept only where a valid filter leads to. -/
def Sound (subscriptions : Subscriptions) : Prop :=
  ∀ path client, client ∈ subscriptions.subscribersAt path →
    ∃ filter, filterFault? subscriptions.maxLevels filter = none ∧ levelsOf filter = path

/-- Limits stay, and the subscribers of each path are revised by a function of the path. -/
structure Revises (before after : Subscriptions)
    (revise : List String → Subscribers → Subscribers) : Prop where
  maxQos : after.maxQos = before.maxQos
  maxLevels : after.maxLevels = before.maxLevels
  subscribersAt (path : List String) :
    after.subscribersAt path = revise path (before.subscribersAt path)

section Changes

variable (subscriptions : Subscriptions) (filter client : String) (qos : Qos)

theorem subscribe_cases :
    (∃ fault, filterFault? subscriptions.maxLevels filter = some fault ∧
      subscriptions.subscribe filter client qos = .error (.invalidFilter fault)) ∨
    (filterFault? subscriptions.maxLevels filter = none ∧ ∃ after,
      subscriptions.subscribe filter client qos = .ok (after, min qos subscriptions.maxQos) ∧
      subscriptions.Revises after fun path subscribers =>
        if path = levelsOf filter then subscribers.insert client (min qos subscriptions.maxQos)
        else subscribers) := by
  unfold subscribe
  rw [parseFilter_eq]
  cases filterFault? subscriptions.maxLevels filter with
  | some fault => exact Or.inl ⟨fault, rfl, rfl⟩
  | none =>
      refine Or.inr ⟨rfl, _, rfl, rfl, rfl, fun path => ?_⟩
      apply (Node.payloadAt_upsert _ (levelsOf filter) path _).trans
      split <;> simp_all [subscribersAt]

theorem unsubscribe_cases :
    (∃ fault, filterFault? subscriptions.maxLevels filter = some fault ∧
      subscriptions.unsubscribe filter client = .error (.invalidFilter fault)) ∨
    (filterFault? subscriptions.maxLevels filter = none ∧ ∃ after removed,
      subscriptions.unsubscribe filter client = .ok (after, removed) ∧
      subscriptions.Revises after fun path subscribers =>
        if path = levelsOf filter then subscribers.erase client else subscribers) := by
  unfold unsubscribe
  rw [parseFilter_eq]
  cases filterFault? subscriptions.maxLevels filter with
  | some fault => exact Or.inl ⟨fault, rfl, rfl⟩
  | none =>
      refine Or.inr ⟨rfl, _, _, rfl, rfl, rfl, fun path => ?_⟩
      apply (Node.payloadAt_update (Subscribers.keepsVacant_erase client) (levelsOf filter) path _).trans
      split <;> simp_all [subscribersAt]

theorem revises_unsubscribeAll :
    subscriptions.Revises (subscriptions.unsubscribeAll client).1
      fun _ subscribers => subscribers.erase client := by
  let change (subscribers : Subscribers) : Subscribers × Bool :=
    (subscribers.erase client, subscribers.contains client)
  have keeps : KeepsVacant fun subscribers => (change subscribers).1 :=
    Subscribers.keepsVacant_erase client
  refine ⟨rfl, rfl, fun path => ?_⟩
  exact Node.payloadAt_changeAll keeps subscriptions.trie.ordered path

end Changes

@[simp]
theorem subscribersAt_empty (maxQos : Qos) (maxLevels : Nat) (path : List String) :
    (empty maxQos maxLevels).subscribersAt path = ∅ :=
  Node.payloadAt_idle path

theorem sound_empty (maxQos : Qos) (maxLevels : Nat) : (empty maxQos maxLevels).Sound := by
  intro path client member
  simp at member

variable {subscriptions after : Subscriptions}

theorem revises_subscribe {filter client : String} {qos granted : Qos}
    (succeeds : subscriptions.subscribe filter client qos = .ok (after, granted)) :
    filterFault? subscriptions.maxLevels filter = none ∧
      granted = min qos subscriptions.maxQos ∧
      subscriptions.Revises after fun path subscribers =>
        if path = levelsOf filter then subscribers.insert client granted else subscribers := by
  rcases subscribe_cases subscriptions filter client qos with
    ⟨fault, _, refused⟩ | ⟨valid, reached, accepted, revises⟩
  · rw [refused] at succeeds
    cases succeeds
  · rw [accepted] at succeeds
    obtain ⟨rfl, rfl⟩ := Prod.mk.inj (Except.ok.inj succeeds)
    exact ⟨valid, rfl, revises⟩

theorem revises_unsubscribe {filter client : String} {removed : Bool}
    (succeeds : subscriptions.unsubscribe filter client = .ok (after, removed)) :
    filterFault? subscriptions.maxLevels filter = none ∧
      subscriptions.Revises after fun path subscribers =>
        if path = levelsOf filter then subscribers.erase client else subscribers := by
  rcases unsubscribe_cases subscriptions filter client with
    ⟨fault, _, refused⟩ | ⟨valid, reached, flag, accepted, revises⟩
  · rw [refused] at succeeds
    cases succeeds
  · rw [accepted] at succeeds
    obtain ⟨rfl, _⟩ := Prod.mk.inj (Except.ok.inj succeeds)
    exact ⟨valid, revises⟩

theorem Sound.of_revises {revise : List String → Subscribers → Subscribers}
    (sound : subscriptions.Sound) (revises : subscriptions.Revises after revise)
    (brings : ∀ path subscribers client, client ∈ revise path subscribers →
      client ∈ subscribers ∨
        ∃ filter, filterFault? subscriptions.maxLevels filter = none ∧ levelsOf filter = path) :
    after.Sound := by
  intro path client member
  rw [revises.maxLevels]
  rw [revises.subscribersAt] at member
  rcases brings path _ client member with kept | brought
  · exact sound path client kept
  · exact brought

theorem Sound.subscribe (sound : subscriptions.Sound) {filter client : String} {qos granted : Qos}
    (succeeds : subscriptions.subscribe filter client qos = .ok (after, granted)) :
    after.Sound := by
  obtain ⟨valid, _, revises⟩ := revises_subscribe succeeds
  refine sound.of_revises revises fun path subscribers other member => ?_
  split at member
  case isTrue here => exact Or.inr ⟨filter, valid, here.symm⟩
  case isFalse => exact Or.inl member

theorem Sound.unsubscribe (sound : subscriptions.Sound) {filter client : String} {removed : Bool}
    (succeeds : subscriptions.unsubscribe filter client = .ok (after, removed)) :
    after.Sound := by
  apply sound.of_revises (revises_unsubscribe succeeds).2
  intro path subscribers other member
  apply Or.inl
  split at member
  case isTrue => exact Std.ExtTreeMap.mem_of_mem_erase member
  case isFalse => exact member

theorem Sound.unsubscribeAll (sound : subscriptions.Sound) (client : String) :
    (subscriptions.unsubscribeAll client).1.Sound :=
  sound.of_revises (revises_unsubscribeAll subscriptions client)
    fun _ _ _ member => Or.inl (Std.ExtTreeMap.mem_of_mem_erase member)

section Granted

variable {filter client : String}

theorem Revises.granted? {revise : List String → Subscribers → Subscribers}
    (revises : subscriptions.Revises after revise) (filter client : String) :
    after.granted? filter client =
      (revise (levelsOf filter) (subscriptions.subscribersAt (levelsOf filter)))[client]? := by
  rw [Subscriptions.granted?, revises.subscribersAt]

theorem granted?_subscribe {qos granted : Qos}
    (succeeds : subscriptions.subscribe filter client qos = .ok (after, granted))
    (other otherClient : String) :
    after.granted? other otherClient =
      if other = filter ∧ otherClient = client then some granted
      else subscriptions.granted? other otherClient := by
  obtain ⟨_, _, revises⟩ := revises_subscribe succeeds
  rw [revises.granted?, Subscriptions.granted?]
  by_cases same : other = filter
  · simp only [same, if_true, true_and, Std.ExtTreeMap.getElem?_insert, compare_eq_iff_eq]
    simp only [@eq_comm _ client]
  · simp [same, levelsOf_injective.eq_iff]

theorem granted?_unsubscribe {removed : Bool}
    (succeeds : subscriptions.unsubscribe filter client = .ok (after, removed))
    (other otherClient : String) :
    after.granted? other otherClient =
      if other = filter ∧ otherClient = client then none
      else subscriptions.granted? other otherClient := by
  obtain ⟨_, revises⟩ := revises_unsubscribe succeeds
  rw [revises.granted?, Subscriptions.granted?]
  by_cases same : other = filter
  · simp only [same, if_true, true_and, Std.ExtTreeMap.getElem?_erase, compare_eq_iff_eq]
    simp only [@eq_comm _ client]
  · simp [same, levelsOf_injective.eq_iff]

theorem granted?_unsubscribeAll (subscriptions : Subscriptions)
    (client other otherClient : String) :
    (subscriptions.unsubscribeAll client).1.granted? other otherClient =
      if otherClient = client then none else subscriptions.granted? other otherClient := by
  rw [(revises_unsubscribeAll subscriptions client).granted?, Subscriptions.granted?]
  simp only [Std.ExtTreeMap.getElem?_erase, compare_eq_iff_eq]
  simp only [@eq_comm _ client]

theorem Sound.valid_of_granted (sound : subscriptions.Sound) {filter client : String}
    {granted : Qos} (found : subscriptions.granted? filter client = some granted) :
    filterFault? subscriptions.maxLevels filter = none := by
  have member : client ∈ subscriptions.subscribersAt (levelsOf filter) := by
    rw [Std.ExtTreeMap.mem_iff_isSome_getElem?]
    exact Option.isSome_of_eq_some found
  obtain ⟨valid, noFault, same⟩ := sound _ client member
  exact levelsOf_injective same ▸ noFault

/-- A filter that is refused has no subscriptions to begin with. -/
theorem Sound.ne_of_faulty (sound : subscriptions.Sound) {faultyFilter : String}
    {fault : FilterFault} (faulty : filterFault? subscriptions.maxLevels faultyFilter = some fault)
    {granted : Qos} (found : subscriptions.granted? filter client = some granted) :
    faultyFilter ≠ filter := by
  rintro rfl
  rw [sound.valid_of_granted found] at faulty
  cases faulty

end Granted

theorem Sound.levelsOf_joinLevels (sound : subscriptions.Sound) {path : List String}
    {client : String} (member : client ∈ subscriptions.subscribersAt path) :
    levelsOf (joinLevels path) = path := by
  obtain ⟨filter, _, rfl⟩ := sound path client member
  rw [joinLevels_levelsOf]

theorem mem_toList_trie {path : List String} {subscribers : Subscribers} :
    (path, subscribers) ∈ subscriptions.trie.toList ↔
      subscriptions.subscribersAt path = subscribers ∧ subscribers ≠ ∅ := by
  rw [Trie.toList, Node.mem_entries subscriptions.trie.ordered, Node.Stores, subscribersAt,
    ← Bool.not_eq_true, Subscribers.isVacant_iff]

theorem mem_subscribersAt_of_listed {path : List String} {subscribers : Subscribers}
    (listed : (path, subscribers) ∈ subscriptions.trie.toList) {client : String} {granted : Qos}
    (found : subscribers[client]? = some granted) : client ∈ subscriptions.subscribersAt path := by
  rw [(mem_toList_trie.mp listed).1, Std.ExtTreeMap.mem_iff_isSome_getElem?, found]
  rfl

theorem mem_subscriptionsOf {path : List String} {subscribers : Subscribers}
    {subscription : Subscription} :
    subscription ∈ subscriptionsOf (path, subscribers) ↔
      joinLevels path = subscription.filter ∧
        subscribers[subscription.client]? = some subscription.granted := by
  simp only [subscriptionsOf, List.mem_map, Prod.exists,
    Std.ExtTreeMap.mem_toList_iff_getElem?_eq_some]
  constructor
  · rintro ⟨client, granted, found, rfl⟩
    exact ⟨rfl, found⟩
  · rintro ⟨same, found⟩
    exact ⟨subscription.client, subscription.granted, found, by rw [same]⟩

theorem Sound.filter_eq (sound : subscriptions.Sound) {path : List String}
    {subscribers : Subscribers} (listed : (path, subscribers) ∈ subscriptions.trie.toList)
    {subscription : Subscription} (member : subscription ∈ subscriptionsOf (path, subscribers)) :
    levelsOf subscription.filter = path := by
  obtain ⟨same, found⟩ := mem_subscriptionsOf.mp member
  rw [← same, sound.levelsOf_joinLevels (mem_subscribersAt_of_listed listed found)]

theorem mem_live (sound : subscriptions.Sound) {subscription : Subscription} :
    subscription ∈ subscriptions.live ↔
      subscriptions.granted? subscription.filter subscription.client =
        some subscription.granted := by
  unfold live granted?
  rw [List.mem_flatMap]
  constructor
  · rintro ⟨⟨path, subscribers⟩, listed, member⟩
    rw [sound.filter_eq listed member, (mem_toList_trie.mp listed).1]
    exact (mem_subscriptionsOf.mp member).2
  · intro found
    refine ⟨(levelsOf subscription.filter, _), mem_toList_trie.mpr ⟨rfl, ?_⟩,
      mem_subscriptionsOf.mpr ⟨joinLevels_levelsOf _, found⟩⟩
    intro empty
    simp [empty] at found

theorem mem_filtersOf {client filter : String} {granted : Qos} :
    (filter, granted) ∈ subscriptions.filtersOf client ↔
      ⟨filter, client, granted⟩ ∈ subscriptions.live := by
  unfold filtersOf live
  rw [List.mem_filterMap, List.mem_flatMap]
  refine exists_congr fun ⟨path, subscribers⟩ => and_congr_right fun _ => ?_
  rw [mem_subscriptionsOf, Option.map_eq_some_iff]
  constructor
  · rintro ⟨found, present, same⟩
    cases same
    exact ⟨rfl, present⟩
  · rintro ⟨same, present⟩
    exact ⟨granted, present, by rw [same]⟩

theorem mem_filtersOf_iff_granted? (sound : subscriptions.Sound) {client filter : String}
    {granted : Qos} :
    (filter, granted) ∈ subscriptions.filtersOf client ↔
      subscriptions.granted? filter client = some granted := by
  rw [mem_filtersOf, mem_live sound]

/-- What is granted to a client can be read off its filters, and the other way round. -/
theorem mem_filtersOf_congr (sound : subscriptions.Sound) (afterSound : after.Sound)
    {client : String} :
    (∀ entry, entry ∈ after.filtersOf client ↔ entry ∈ subscriptions.filtersOf client) ↔
      ∀ filter, after.granted? filter client = subscriptions.granted? filter client := by
  simp only [Prod.forall, mem_filtersOf_iff_granted? sound, mem_filtersOf_iff_granted? afterSound]
  constructor
  · intro same filter
    exact Option.ext fun granted => same filter granted
  · intro same filter granted
    rw [same]

theorem nodup_filtersOf (sound : subscriptions.Sound) (client : String) :
    ((subscriptions.filtersOf client).map Prod.fst).Nodup := by
  apply nodup_names (Node.nodup_paths subscriptions.trie.ordered)
    fun subscribers : Subscribers => subscribers[client]?
  intro path subscribers granted listed found
  exact sound.levelsOf_joinLevels (mem_subscribersAt_of_listed listed found)

theorem nodup_live (sound : subscriptions.Sound) : subscriptions.live.Nodup := by
  refine List.nodup_flatMap.mpr ⟨?_, ?_⟩
  · rintro ⟨path, subscribers⟩ _
    refine List.Nodup.map ?_ ?_
    · rintro ⟨first, granted⟩ ⟨second, other⟩ same
      simpa using same
    · exact subscribers.distinct_keys_toList.imp fun different same => different (by simp [same])
  · have distinct := List.pairwise_map.mp (Node.nodup_paths subscriptions.trie.ordered)
    apply distinct.imp_of_mem
    rintro ⟨first, _⟩ ⟨second, _⟩ firstListed secondListed different
    intro subscription inFirst inSecond
    exact different ((sound.filter_eq firstListed inFirst).symm.trans
      (sound.filter_eq secondListed inSecond))

section Search

/-- The live subscriptions that a topic finds, as the search comes upon them. -/
def hits (subscriptions : Subscriptions) (topic : String) : List Subscription :=
  (subscriptions.trie.root.hits (levelsOf topic)).flatMap subscriptionsOf

theorem recipients_eq (subscriptions : Subscriptions) (topic : String) :
    subscriptions.recipients topic =
      match nameFault? subscriptions.maxLevels topic with
      | some fault => .error (.invalidName fault)
      | none => .ok ((subscriptions.hits topic).map fun subscription =>
          (subscription.client, subscription.granted)) := by
  unfold recipients
  rw [parseName_eq]
  cases nameFault? subscriptions.maxLevels topic with
  | some fault => rfl
  | none =>
      apply congrArg Except.ok
      rw [Trie.matching, ← Node.map_snd_hits, hits, List.map_flatMap, List.flatMap_map]
      simp [subscriptionsOf, Function.comp_def]

/-- How a search orders subscriptions. -/
def FoundBefore (first second : Subscription) : Prop :=
  searchKey (levelsOf first.filter) ≤ searchKey (levelsOf second.filter)

instance (first second : Subscription) : Decidable (FoundBefore first second) :=
  inferInstanceAs (Decidable (searchKey _ ≤ searchKey _))

instance : IsTrans Subscription FoundBefore :=
  ⟨fun _ _ _ first second => le_trans first second⟩

instance : Std.Total FoundBefore :=
  ⟨fun _ _ => le_total _ _⟩

/-- The subscriptions of one client that match a topic, in the order of a search. -/
def found (subscriptions : Subscriptions) (client topic : String) : List Subscription :=
  (subscriptions.live.filter fun subscription =>
    subscription.client = client ∧ topicMatches subscription.filter topic).insertionSort FoundBefore

variable {topic : String}

theorem listed_of_hit (plain : PlainLevels (levelsOf topic))
    {entry : List String × Subscribers}
    (hit : entry ∈ subscriptions.trie.root.hits (levelsOf topic)) :
    entry ∈ subscriptions.trie.toList :=
  (Node.mem_entries subscriptions.trie.ordered).mpr ((Node.mem_hits plain).mp hit).1

theorem flatMap_filter_of_agree {α β : Type} {keepsEntry : α → Bool} {keeps : β → Bool}
    {standsFor : α → List β} {entries : List α}
    (agree : ∀ entry ∈ entries, ∀ item ∈ standsFor entry, keeps item = keepsEntry entry) :
    (entries.filter keepsEntry).flatMap standsFor = (entries.flatMap standsFor).filter keeps := by
  induction entries with
  | nil => rfl
  | cons entry rest ih =>
      have later := ih fun other member => agree other (List.mem_cons_of_mem entry member)
      have here := agree entry (List.mem_cons_self ..)
      rw [List.flatMap_cons, List.filter_append, ← later]
      by_cases kept : keepsEntry entry = true
      · have all : (standsFor entry).filter keeps = standsFor entry :=
          List.filter_eq_self.mpr fun item member => (here item member).trans kept
        rw [List.filter_cons_of_pos kept, List.flatMap_cons, all]
      · have none : (standsFor entry).filter keeps = [] :=
          List.filter_eq_nil_iff.mpr fun item member => by rw [here item member]; exact kept
        rw [List.filter_cons_of_neg kept, none, List.nil_append]

/-- The search finds the live subscriptions that match, each of them once. -/
theorem hits_perm (sound : subscriptions.Sound) (plain : PlainLevels (levelsOf topic)) :
    (subscriptions.hits topic).Perm
      (subscriptions.live.filter fun subscription => topicMatches subscription.filter topic) := by
  have entries := (Node.hits_perm plain subscriptions.trie.ordered).flatMap_right subscriptionsOf
  refine entries.trans (List.Perm.of_eq (flatMap_filter_of_agree ?_))
  rintro ⟨path, subscribers⟩ listed subscription member
  rw [topicMatches, sound.filter_eq listed member]

theorem hits_pairwise (sound : subscriptions.Sound) (plain : PlainLevels (levelsOf topic)) :
    (subscriptions.hits topic).Pairwise FoundBefore := by
  refine List.pairwise_flatMap.mpr ⟨?_, ?_⟩
  · rintro ⟨path, subscribers⟩ hit
    have listed := listed_of_hit plain hit
    apply List.pairwise_of_forall_mem_list
    intro first firstMember second secondMember
    rw [FoundBefore, sound.filter_eq listed firstMember, sound.filter_eq listed secondMember]
  · apply (Node.inSearchOrder_hits plain _).imp_of_mem
    rintro ⟨first, _⟩ ⟨second, _⟩ firstHit secondHit less
    intro subscription inFirst other inSecond
    rw [FoundBefore, sound.filter_eq (listed_of_hit plain firstHit) inFirst,
      sound.filter_eq (listed_of_hit plain secondHit) inSecond]
    exact less.le

theorem mem_found {client : String} {subscription : Subscription} :
    subscription ∈ subscriptions.found client topic ↔
      subscription ∈ subscriptions.live ∧ subscription.client = client ∧
        topicMatches subscription.filter topic = true := by
  simp [found]

/-- A client has one subscription to each filter. -/
theorem eq_of_live (sound : subscriptions.Sound) {first second : Subscription}
    (firstLive : first ∈ subscriptions.live) (secondLive : second ∈ subscriptions.live)
    (sameFilter : first.filter = second.filter) (sameClient : first.client = second.client) :
    first = second := by
  have granted := (mem_live sound).mp firstLive
  rw [sameFilter, sameClient, (mem_live sound).mp secondLive] at granted
  cases first
  cases second
  simp_all

/-- Subscriptions of one client can be put into the order of a search in one way only. -/
theorem eq_of_foundBefore (sound : subscriptions.Sound) {client : String}
    {first second : List Subscription} (same : first.Perm second)
    (own : ∀ subscription ∈ second,
      subscription ∈ subscriptions.live ∧ subscription.client = client)
    (firstOrdered : first.Pairwise FoundBefore) (secondOrdered : second.Pairwise FoundBefore) :
    first = second := by
  refine same.eq_of_pairwise ?_ firstOrdered secondOrdered
  intro one other oneMember otherMember before after
  obtain ⟨oneLive, oneClient⟩ := own one (same.mem_iff.mp oneMember)
  obtain ⟨otherLive, otherClient⟩ := own other otherMember
  -- Equal keys belong to equal filters, and a client has one subscription to each filter.
  have sameKey := le_antisymm before after
  exact eq_of_live sound oneLive otherLive (levelsOf_injective (searchKey_injective sameKey))
    (oneClient.trans otherClient.symm)

theorem own_of_mem_found {client : String} {subscription : Subscription}
    (found : subscription ∈ subscriptions.found client topic) :
    subscription ∈ subscriptions.live ∧ subscription.client = client :=
  ⟨(mem_found.mp found).1, (mem_found.mp found).2.1⟩

/-- What a search finds for one client does not depend on the other clients. -/
theorem filter_hits (sound : subscriptions.Sound) (plain : PlainLevels (levelsOf topic))
    (client : String) :
    ((subscriptions.hits topic).filter fun subscription => subscription.client = client) =
      subscriptions.found client topic := by
  refine eq_of_foundBefore sound ?_ (fun _ => own_of_mem_found)
    ((hits_pairwise sound plain).filter _) (List.pairwise_insertionSort FoundBefore _)
  apply ((hits_perm sound plain).filter _).trans
  rw [List.filter_filter]
  refine List.Perm.trans (List.Perm.of_eq ?_) (List.perm_insertionSort FoundBefore _).symm
  simp

theorem nodup_found (sound : subscriptions.Sound) (client topic : String) :
    (subscriptions.found client topic).Nodup :=
  (List.perm_insertionSort FoundBefore _).nodup_iff.mpr ((nodup_live sound).filter _)

theorem found_congr (sound : subscriptions.Sound) (afterSound : after.Sound) {client : String}
    (same : ∀ filter, after.granted? filter client = subscriptions.granted? filter client)
    (topic : String) : after.found client topic = subscriptions.found client topic := by
  have sameMembers (subscription : Subscription) :
      subscription ∈ after.found client topic ↔ subscription ∈ subscriptions.found client topic := by
    rw [mem_found, mem_found, mem_live sound, mem_live afterSound]
    refine and_congr_left fun ⟨own, _⟩ => ?_
    rw [own, same]
  refine eq_of_foundBefore sound ?_ (fun _ => own_of_mem_found)
    (List.pairwise_insertionSort FoundBefore _) (List.pairwise_insertionSort FoundBefore _)
  exact (List.perm_ext_iff_of_nodup (nodup_found afterSound client topic)
    (nodup_found sound client topic)).mpr sameMembers

end Search

end Subscriptions

end TopicBroker

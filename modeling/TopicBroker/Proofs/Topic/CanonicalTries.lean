import TopicBroker.Proofs.Topic.RetainedTable
import TopicBroker.Proofs.Topic.SubscriptionTable
import TopicBroker.Proofs.Trie.Shape

/-!
# Canonical tries

Subscriptions and retained messages are kept in tries whose nodes come and go
with them.  Every change leaves its trie pruned: a node that is created holds
what it was created for, and where something is removed the idle nodes are
dropped.  So the trie after a history is the one that the contents ask for, and
nothing else of the history can be seen in it.
-/

namespace TopicBroker

namespace Subscriptions

/-- After a history the trie holds the table of the history, in the shape that the table asks for. -/
structure Canonical (maxQos : Qos) (maxLevels : Nat) (history : List Change) : Prop where
  represents : ((empty maxQos maxLevels).after history).Represents
    (Table.after maxQos maxLevels history)
  shaped : ((empty maxQos maxLevels).after history).trie.Shaped
    {path | ∃ filter client, (filter, client) ∈ Table.after maxQos maxLevels history ∧
      levelsOf filter = path}
  /-- The trie depends on the table only, whatever limits and changes have led to it. -/
  determined : ∀ otherQos otherLevels other,
    Table.after otherQos otherLevels other = Table.after maxQos maxLevels history →
      ((empty otherQos otherLevels).after other).trie =
        ((empty maxQos maxLevels).after history).trie
  restored : ∀ filter client requested,
    (filter, client) ∉ Table.after maxQos maxLevels history →
      (((empty maxQos maxLevels).after history).change (.subscribe filter client requested)).change
        (.unsubscribe filter client) = (empty maxQos maxLevels).after history

/-- The sweep leaves no idle node, whatever trie it finds. -/
theorem pruned_unsubscribeAll (subscriptions : Subscriptions) (client : String) :
    (subscriptions.unsubscribeAll client).1.trie.Pruned :=
  Branches.pruned_updateAll _ [] subscriptions.trie.root.branches

section Pruned

variable {subscriptions after : Subscriptions} (pruned : subscriptions.trie.Pruned)
  {filter client : String}
include pruned

theorem pruned_subscribe {qos granted : Qos}
    (succeeds : subscriptions.subscribe filter client qos = .ok (after, granted)) :
    after.trie.Pruned := by
  obtain ⟨valid, _, _⟩ := revises_subscribe succeeds
  unfold subscribe at succeeds
  rw [parseFilter_eq, valid] at succeeds
  obtain ⟨rfl, _⟩ := Prod.mk.inj (Except.ok.inj succeeds)
  apply Node.pruned_upsert pruned
  exact Std.ExtTreeMap.isEmpty_eq_false_iff.mpr Std.ExtTreeMap.insert_ne_empty

theorem pruned_unsubscribe {removed : Bool}
    (succeeds : subscriptions.unsubscribe filter client = .ok (after, removed)) :
    after.trie.Pruned := by
  obtain ⟨valid, _⟩ := revises_unsubscribe succeeds
  unfold unsubscribe at succeeds
  rw [parseFilter_eq, valid] at succeeds
  obtain ⟨rfl, _⟩ := Prod.mk.inj (Except.ok.inj succeeds)
  exact Node.pruned_update _ (levelsOf filter) pruned

theorem pruned_change (change : Change) : (subscriptions.change change).trie.Pruned := by
  cases change with
  | subscribe filter client requested =>
      cases outcome : subscriptions.subscribe filter client requested with
      | error _ => simpa [Subscriptions.change, outcome] using pruned
      | ok reached => simpa [Subscriptions.change, outcome] using pruned_subscribe pruned outcome
  | unsubscribe filter client =>
      cases outcome : subscriptions.unsubscribe filter client with
      | error _ => simpa [Subscriptions.change, outcome] using pruned
      | ok reached => simpa [Subscriptions.change, outcome] using pruned_unsubscribe pruned outcome
  | unsubscribeAll client => exact pruned_unsubscribeAll subscriptions client

end Pruned

theorem pruned_after (maxQos : Qos) (maxLevels : Nat) (history : List Change) :
    ((empty maxQos maxLevels).after history).trie.Pruned := by
  induction history using List.reverseRecOn with
  | nil => trivial
  | append_singleton earlier change ih =>
      rw [after_append_singleton]
      exact pruned_change ih change

section Represented

variable {first second subscriptions : Subscriptions} {table : Table}

theorem Represents.stores_iff (represents : subscriptions.Represents table) {path : List String} :
    (∃ stored, subscriptions.trie.root.Stores path stored) ↔
      ∃ filter client, (filter, client) ∈ table ∧ levelsOf filter = path := by
  constructor
  · rintro ⟨stored, same, occupied⟩
    have inhabited : ∃ client, client ∈ stored := by
      by_contra! absent
      exact Std.ExtTreeMap.isEmpty_eq_false_iff.mp occupied
        (Std.ExtTreeMap.eq_empty_iff_forall_not_mem.mpr absent)
    obtain ⟨client, member⟩ := inhabited
    rw [← same] at member
    obtain ⟨filter, _, rfl⟩ := represents.sound path client member
    refine ⟨filter, client, (represents.mem_iff filter client).mpr ?_, rfl⟩
    exact Std.ExtTreeMap.mem_iff_isSome_getElem?.mp member
  · rintro ⟨filter, client, row, rfl⟩
    have member := Std.ExtTreeMap.mem_iff_isSome_getElem?.mpr
      ((represents.mem_iff filter client).mp row)
    exact ⟨_, rfl, Std.ExtTreeMap.isEmpty_eq_false_iff.mpr (Std.ExtTreeMap.ne_empty_of_mem member)⟩

/-- Paths that no filter can have hold no clients, and the others are read by their filter. -/
theorem Represents.getElem?_subscribersAt (represents : subscriptions.Represents table)
    (path : List String) (client : String) :
    (subscriptions.subscribersAt path)[client]? =
      if levelsOf (joinLevels path) = path then table[(joinLevels path, client)]? else none := by
  by_cases readable : levelsOf (joinLevels path) = path
  · rw [if_pos readable, represents.granted, granted?, readable]
  · rw [if_neg readable]
    cases found : (subscriptions.subscribersAt path)[client]? with
    | none => rfl
    | some granted =>
        have member : client ∈ subscriptions.subscribersAt path := by
          rw [Std.ExtTreeMap.mem_iff_isSome_getElem?, found]
          rfl
        exact absurd (represents.sound.levelsOf_joinLevels member) readable

theorem Represents.trie_eq (firstRepresents : first.Represents table)
    (secondRepresents : second.Represents table) (firstPruned : first.trie.Pruned)
    (secondPruned : second.trie.Pruned) : first.trie = second.trie := by
  apply Trie.eq_of_payloadAt firstPruned secondPruned
  intro path
  apply Std.ExtTreeMap.ext_getElem?
  intro client
  have firstReads := firstRepresents.getElem?_subscribersAt path client
  have secondReads := secondRepresents.getElem?_subscribersAt path client
  exact firstReads.trans secondReads.symm

theorem Represents.eq (firstRepresents : first.Represents table)
    (secondRepresents : second.Represents table) (firstPruned : first.trie.Pruned)
    (secondPruned : second.trie.Pruned) (sameQos : first.maxQos = second.maxQos)
    (sameLevels : first.maxLevels = second.maxLevels) : first = second := by
  have sameTrie := firstRepresents.trie_eq secondRepresents firstPruned secondPruned
  have sameCount : first.count = second.count :=
    firstRepresents.count.trans secondRepresents.count.symm
  cases first
  cases second
  simp_all

/-- A new row that is removed again leaves the table as it was. -/
theorem Table.change_back {filter client : String} (fresh : (filter, client) ∉ table)
    (maxQos : Qos) (maxLevels : Nat) (requested : Qos) :
    (table.change maxQos maxLevels (.subscribe filter client requested)).change maxQos maxLevels
      (.unsubscribe filter client) = table := by
  simp only [Table.change]
  cases checkFilter maxLevels filter with
  | error _ => rfl
  | ok _ =>
      apply Std.ExtHashMap.ext_getElem?
      intro row
      simp only [Std.ExtHashMap.getElem?_erase, Std.ExtHashMap.getElem?_insert]
      by_cases same : (filter, client) = row
      · rw [← same, Std.ExtHashMap.getElem?_eq_none fresh]
        simp
      · simp [same]

/-- A fresh subscription that is ended again leaves the trie and everything beside it as they were. -/
theorem Represents.change_back (represents : subscriptions.Represents table)
    (pruned : subscriptions.trie.Pruned) {filter client : String} (fresh : (filter, client) ∉ table)
    (requested : Qos) :
    (subscriptions.change (.subscribe filter client requested)).change
      (.unsubscribe filter client) = subscriptions := by
  have subscribed := represents.change (.subscribe filter client requested)
  have ended := subscribed.change (.unsubscribe filter client)
  obtain ⟨sameLevels, sameQos⟩ :
      (subscriptions.change (.subscribe filter client requested)).maxLevels =
          subscriptions.maxLevels ∧
        (subscriptions.change (.subscribe filter client requested)).maxQos = subscriptions.maxQos :=
    limits_change _
  have backLevels := (limits_change (.unsubscribe filter client)).1.trans sameLevels
  have backQos := (limits_change (.unsubscribe filter client)).2.trans sameQos
  rw [sameLevels, sameQos, Table.change_back fresh] at ended
  apply ended.eq represents _ pruned backQos backLevels
  exact pruned_change (pruned_change pruned _) _

end Represented

theorem canonical (maxQos : Qos) (maxLevels : Nat) (history : List Change) :
    Canonical maxQos maxLevels history where
  represents := represents_after maxQos maxLevels history
  shaped := by
    have represents := represents_after maxQos maxLevels history
    have shaped := Trie.shaped_of_pruned (pruned_after maxQos maxLevels history)
    simpa only [represents.stores_iff] using shaped
  determined otherQos otherLevels other same :=
    (represents_after otherQos otherLevels other).trie_eq
      (same ▸ represents_after maxQos maxLevels history)
      (pruned_after otherQos otherLevels other) (pruned_after maxQos maxLevels history)
  restored _ _ requested fresh :=
    (represents_after maxQos maxLevels history).change_back (pruned_after maxQos maxLevels history)
      fresh requested

end Subscriptions

namespace Retained

/-- After a history the trie holds the table of the history, in the shape that the table asks for. -/
structure Canonical (maxLevels : Nat) (history : List (String × RetainedMessage)) : Prop where
  represents : ((empty maxLevels).after history).Represents (Table.after maxLevels history)
  shaped : ((empty maxLevels).after history).trie.Shaped
    {path | ∃ topic, topic ∈ Table.after maxLevels history ∧ levelsOf topic = path}
  /-- The trie depends on the table only, whatever limit and messages have led to it. -/
  determined : ∀ otherLevels other,
    Table.after otherLevels other = Table.after maxLevels history →
      ((empty otherLevels).after other).trie = ((empty maxLevels).after history).trie
  restored : ∀ topic message qos, topic ∉ Table.after maxLevels history →
    (((empty maxLevels).after history).keep (topic, message)).keep (topic, ⟨[], qos⟩) =
      (empty maxLevels).after history

theorem pruned_retain {retained after : Retained} {topic : String} {payload : Payload} {qos : Qos}
    (pruned : retained.trie.Pruned) (accepted : retained.retain topic payload qos = .ok after) :
    after.trie.Pruned := by
  unfold retain at accepted
  rw [parseName_eq] at accepted
  cases valid : nameFault? retained.maxLevels topic with
  | some fault =>
      rw [valid] at accepted
      cases accepted
  | none =>
      rw [valid] at accepted
      by_cases empty : payload.isEmpty = true
      · obtain rfl := Except.ok.inj ((if_pos empty).symm.trans accepted)
        exact Node.pruned_update _ (levelsOf topic) pruned
      · obtain rfl := Except.ok.inj ((if_neg empty).symm.trans accepted)
        exact Node.pruned_upsert pruned rfl

theorem pruned_keep {retained : Retained} (pruned : retained.trie.Pruned)
    (asked : String × RetainedMessage) : (retained.keep asked).trie.Pruned := by
  unfold keep
  split
  · exact pruned
  · rename_i kept accepted
    exact pruned_retain pruned accepted

theorem pruned_after (maxLevels : Nat) (history : List (String × RetainedMessage)) :
    ((empty maxLevels).after history).trie.Pruned := by
  induction history using List.reverseRecOn with
  | nil => trivial
  | append_singleton earlier asked ih =>
      rw [after, List.foldl_append]
      exact pruned_keep ih asked

section Represented

variable {first second retained : Retained} {table : Table}

theorem Represents.stores_iff (represents : retained.Represents table) {path : List String} :
    (∃ stored, retained.trie.root.Stores path stored) ↔
      ∃ topic, topic ∈ table ∧ levelsOf topic = path := by
  constructor
  · rintro ⟨stored, same, occupied⟩
    obtain ⟨message, rfl⟩ : ∃ message, stored = some message := by
      cases stored with
      | none => cases occupied
      | some message => exact ⟨message, rfl⟩
    have kept : retained.messageAt path = some message := same
    have reads := represents.sound.get?_joinLevels kept
    refine ⟨joinLevels path, (represents.mem_iff _).mpr ?_,
      represents.sound.levelsOf_joinLevels kept⟩
    rw [reads]
    rfl
  · rintro ⟨topic, row, rfl⟩
    obtain ⟨message, reads⟩ := Option.isSome_iff_exists.mp ((represents.mem_iff topic).mp row)
    have valid := (represents.sound.of_get? reads).2
    rw [get?_eq, if_pos valid] at reads
    exact ⟨some message, messageAt_eq_some_iff.mp reads⟩

/-- Paths that no topic can have hold no message, and the others are read by their topic. -/
theorem Represents.messageAt_eq (represents : retained.Represents table) (path : List String) :
    retained.messageAt path =
      if levelsOf (joinLevels path) = path then table[joinLevels path]? else none := by
  cases found : retained.messageAt path with
  | some message =>
      rw [if_pos (represents.sound.levelsOf_joinLevels found), represents.kept,
        represents.sound.get?_joinLevels found]
  | none =>
      split
      case isTrue readable =>
        rw [represents.kept, get?_eq, readable, found, ite_self]
      case isFalse => rfl

theorem Represents.trie_eq (firstRepresents : first.Represents table)
    (secondRepresents : second.Represents table) (firstPruned : first.trie.Pruned)
    (secondPruned : second.trie.Pruned) : first.trie = second.trie := by
  apply Trie.eq_of_payloadAt firstPruned secondPruned
  intro path
  have firstReads := firstRepresents.messageAt_eq path
  have secondReads := secondRepresents.messageAt_eq path
  exact firstReads.trans secondReads.symm

theorem Represents.eq (firstRepresents : first.Represents table)
    (secondRepresents : second.Represents table) (firstPruned : first.trie.Pruned)
    (secondPruned : second.trie.Pruned) (sameLevels : first.maxLevels = second.maxLevels) :
    first = second := by
  have sameTrie := firstRepresents.trie_eq secondRepresents firstPruned secondPruned
  have sameCount : first.count = second.count :=
    firstRepresents.count.trans secondRepresents.count.symm
  cases first
  cases second
  simp_all

/-- A first message on a topic that is cleared again leaves the table as it was. -/
theorem Table.keep_back {topic : String} (fresh : topic ∉ table) (maxLevels : Nat)
    (message : RetainedMessage) (qos : Qos) :
    (table.keep maxLevels (topic, message)).keep maxLevels (topic, ⟨[], qos⟩) = table := by
  simp only [Table.keep]
  cases checkName maxLevels topic with
  | error _ => rfl
  | ok _ =>
      apply Std.ExtHashMap.ext_getElem?
      intro other
      by_cases same : topic = other
      · rw [← same, Std.ExtHashMap.getElem?_eq_none fresh]
        simp
      · by_cases empty : message.payload.isEmpty = true
        · simp [Std.ExtHashMap.getElem?_erase, same, empty]
        · simp [Std.ExtHashMap.getElem?_erase, Std.ExtHashMap.getElem?_insert, same, empty]

theorem Represents.keep_back (represents : retained.Represents table)
    (pruned : retained.trie.Pruned) {topic : String} (fresh : topic ∉ table)
    (message : RetainedMessage) (qos : Qos) :
    (retained.keep (topic, message)).keep (topic, ⟨[], qos⟩) = retained := by
  have kept := represents.keep (topic, message)
  have cleared := kept.keep (topic, ⟨[], qos⟩)
  have sameLevels := maxLevels_keep retained (topic, message)
  have backLevels := (maxLevels_keep _ (topic, ⟨[], qos⟩)).trans sameLevels
  rw [sameLevels, Table.keep_back fresh] at cleared
  apply cleared.eq represents _ pruned backLevels
  exact pruned_keep (pruned_keep pruned _) _

end Represented

theorem canonical (maxLevels : Nat) (history : List (String × RetainedMessage)) :
    Canonical maxLevels history where
  represents := represents_after maxLevels history
  shaped := by
    have represents := represents_after maxLevels history
    have shaped := Trie.shaped_of_pruned (pruned_after maxLevels history)
    simpa only [represents.stores_iff] using shaped
  determined otherLevels other same :=
    (represents_after otherLevels other).trie_eq (same ▸ represents_after maxLevels history)
      (pruned_after otherLevels other) (pruned_after maxLevels history)
  restored _ message qos fresh :=
    (represents_after maxLevels history).keep_back (pruned_after maxLevels history) fresh message qos

end Retained

/-- The nodes of both tries are those that their contents ask for, after every history, and nothing
else of the history can be seen in them. -/
theorem tries_canonical :
    (∀ maxQos maxLevels history, Subscriptions.Canonical maxQos maxLevels history) ∧
      ∀ maxLevels history, Retained.Canonical maxLevels history := by
  constructor
  · intro maxQos maxLevels history
    exact Subscriptions.canonical maxQos maxLevels history
  · intro maxLevels history
    exact Retained.canonical maxLevels history

end TopicBroker

import Std.Data.ExtHashMap
import TopicBroker.Proofs.Topic.SubscriptionHistory

/-!
# Subscriptions as a table

The subscriptions of all clients are spread over the nodes of a trie and counted
beside it, but they can be used as if they were one table of granted guarantees,
with one row for each pair of a filter and a client.  `Table.change` says what a
change makes of such a table.  After every history of changes the trie and the
counter represent the table that the same history makes of an empty one, and
then whatever can be read, and whatever the next change answers, is read off the
table.

The counter is lowered by the number of subscriptions that a change removes.
Since it agrees with the size of the table, it is never lowered below zero.
-/

namespace TopicBroker.Subscriptions

/-- The guarantees that are granted, by filter and client. -/
abbrev Table := Std.ExtHashMap (String × String) Qos

/-- What a change makes of a table.  A change that names no valid filter makes nothing of it. -/
def Table.change (maxQos : Qos) (maxLevels : Nat) (table : Table) : Change → Table
  | .subscribe filter client requested =>
    match checkFilter maxLevels filter with
    | .error _ => table
    | .ok () => table.insert (filter, client) (min requested maxQos)
  | .unsubscribe filter client =>
    match checkFilter maxLevels filter with
    | .error _ => table
    | .ok () => table.erase (filter, client)
  | .unsubscribeAll client => table.filter fun row _ => row.2 ≠ client

/-- The table that a history of changes makes of an empty one. -/
def Table.after (maxQos : Qos) (maxLevels : Nat) (history : List Change) : Table :=
  history.foldl (Table.change maxQos maxLevels) ∅

/-- The table holds the granted guarantees, and the counter is its size. -/
structure Represents (subscriptions : Subscriptions) (table : Table) : Prop where
  sound : subscriptions.Sound
  granted (filter client : String) :
    table[(filter, client)]? = subscriptions.granted? filter client
  count : subscriptions.count = table.size

/-- Everything that is read of the subscriptions or answered by the next change is what the table
says. -/
structure ReadsAs (maxQos : Qos) (maxLevels : Nat) (subscriptions : Subscriptions)
    (table : Table) : Prop where
  valid (filter client : String) (row : (filter, client) ∈ table) :
    checkFilter maxLevels filter = .ok ()
  get (filter client : String) : ((subscriptions.subscribersOf? filter).bind
    fun subscribers : Subscribers => subscribers[client]?) = table[(filter, client)]?
  filters (filter client : String) (granted : Qos) :
    (filter, granted) ∈ subscriptions.filtersOf client ↔ table[(filter, client)]? = some granted
  filtersOnce (client : String) : ((subscriptions.filtersOf client).map Prod.fst).Nodup
  size : subscriptions.count = table.size
  isEmpty : subscriptions.isEmpty = true ↔ table = ∅
  subscribe (filter client : String) (requested : Qos) :
    (subscriptions.subscribe filter client requested).map Prod.snd =
      (checkFilter maxLevels filter).map fun _ => min requested maxQos
  unsubscribe (filter client : String) :
    (subscriptions.unsubscribe filter client).map Prod.snd =
      (checkFilter maxLevels filter).map fun _ => table.contains (filter, client)
  unsubscribeAll (client : String) : (subscriptions.unsubscribeAll client).2 =
    (table.filter fun row _ => row.2 = client).size
  /-- The counter is never below what it is lowered by. -/
  lowersOne (filter client : String) (after : Subscriptions)
    (removes : subscriptions.unsubscribe filter client = .ok (after, true)) :
    after.count + 1 = subscriptions.count
  lowersAll (client : String) : (subscriptions.unsubscribeAll client).1.count +
    (subscriptions.unsubscribeAll client).2 = subscriptions.count

section Count

variable {subscriptions after : Subscriptions} {filter client : String}

theorem contains_payloadAt (subscriptions : Subscriptions) (filter client : String) :
    (subscriptions.trie.root.payloadAt (levelsOf filter)).contains client =
      (subscriptions.granted? filter client).isSome :=
  Std.ExtTreeMap.contains_eq_isSome_getElem?

theorem count_subscribe {qos granted : Qos}
    (succeeds : subscriptions.subscribe filter client qos = .ok (after, granted)) :
    after.count = if (subscriptions.granted? filter client).isSome then subscriptions.count
      else subscriptions.count + 1 := by
  obtain ⟨valid, _, _⟩ := revises_subscribe succeeds
  unfold subscribe at succeeds
  rw [parseFilter_eq, valid] at succeeds
  obtain ⟨rfl, _⟩ := Prod.mk.inj (Except.ok.inj succeeds)
  rw [← contains_payloadAt]
  simp [Node.upsert_snd]

theorem count_unsubscribe {removed : Bool}
    (succeeds : subscriptions.unsubscribe filter client = .ok (after, removed)) :
    removed = (subscriptions.granted? filter client).isSome ∧
      after.count = if removed then subscriptions.count - 1 else subscriptions.count := by
  obtain ⟨valid, _⟩ := revises_unsubscribe succeeds
  unfold unsubscribe at succeeds
  rw [parseFilter_eq, valid] at succeeds
  obtain ⟨rfl, rfl⟩ := Prod.mk.inj (Except.ok.inj succeeds)
  have nobody : (∅ : Subscribers).contains client = false := Std.ExtTreeMap.contains_empty
  have removes := Node.getD_update_snd
    (fun subscribers : Subscribers => (subscribers.erase client, subscribers.contains client))
    nobody (levelsOf filter) subscriptions.trie.root
  exact ⟨removes.trans (contains_payloadAt subscriptions filter client), rfl⟩

theorem answer_subscribe (subscriptions : Subscriptions) (filter client : String) (requested : Qos) :
    (subscriptions.subscribe filter client requested).map Prod.snd =
      (checkFilter subscriptions.maxLevels filter).map
        fun _ => min requested subscriptions.maxQos := by
  rw [checkFilter]
  rcases subscribe_cases subscriptions filter client requested with
    ⟨fault, faulty, refused⟩ | ⟨valid, after, accepted, _⟩
  · rw [refused, faulty]
    rfl
  · rw [accepted, valid]
    rfl

theorem removed_unsubscribeAll (subscriptions : Subscriptions) (client : String) :
    (subscriptions.unsubscribeAll client).2 = (subscriptions.filtersOf client).length := by
  have nobody (subscribers : Subscribers) (vacant : isVacant subscribers = true) :
      subscribers.contains client = false := by
    rw [Subscribers.isVacant_iff.mp vacant]
    exact Std.ExtTreeMap.contains_empty
  have removals := Trie.count_updateAll
    (fun subscribers : Subscribers => (subscribers.erase client, subscribers.contains client))
    nobody subscriptions.trie
  rw [filtersOf, List.length_filterMap_eq_countP]
  apply removals.trans
  simp

end Count

section Size

variable {subscriptions : Subscriptions} {table : Table}

/-- A table has as many rows as a list in which each row stands once. -/
theorem Table.size_eq_length {rows : List ((String × String) × Qos)}
    (once : (rows.map Prod.fst).Nodup)
    (same : ∀ row granted, (row, granted) ∈ rows ↔ table[row]? = some granted) :
    table.size = rows.length := by
  have distinct : rows.Pairwise fun first second => (first.1 == second.1) = false :=
    (List.pairwise_map.mp once).imp fun different => beq_false_of_ne different
  have listed : table = Std.ExtHashMap.ofList rows := by
    apply Std.ExtHashMap.ext_getElem?
    intro row
    cases found : table[row]? with
    | some granted =>
        have member := (same row granted).mpr found
        exact (Std.ExtHashMap.getElem?_ofList_of_mem (beq_self_eq_true row) distinct member).symm
    | none =>
        have missing : (rows.map Prod.fst).contains row = false := by
          rw [Bool.eq_false_iff, ne_eq, List.contains_iff_mem]
          intro member
          obtain ⟨⟨_, granted⟩, listed, rfl⟩ := List.mem_map.mp member
          rw [(same _ granted).mp listed] at found
          cases found
        exact (Std.ExtHashMap.getElem?_ofList_of_contains_eq_false missing).symm
  rw [listed, Std.ExtHashMap.size_ofList distinct]

/-- The rows of one client and those of all others make up the table. -/
theorem Table.size_split (table : Table) (client : String) :
    table.size = (table.filter fun row _ => row.2 = client).size +
      (table.filter fun row _ => row.2 ≠ client).size := by
  have both := @Std.ExtHashMap.size_add_size_eq_size_union_add_size_inter _ _ _ _
    (table.filter fun row _ => row.2 = client) (table.filter fun row _ => row.2 ≠ client) _ _
  have union : (table.filter fun row _ => row.2 = client) ∪
      (table.filter fun row _ => row.2 ≠ client) = table := by
    apply Std.ExtHashMap.ext_getElem?
    intro row
    rw [Std.ExtHashMap.getElem?_union, Std.ExtHashMap.getElem?_filter',
      Std.ExtHashMap.getElem?_filter']
    by_cases own : row.2 = client <;> cases table[row]? <;> simp [own]
  have inter : (table.filter fun row _ => row.2 = client) ∩
      (table.filter fun row _ => row.2 ≠ client) = ∅ := by
    apply Std.ExtHashMap.ext_getElem?
    intro row
    simp only [Std.ExtHashMap.getElem?_inter, Std.ExtHashMap.mem_iff_isSome_getElem?,
      Std.ExtHashMap.getElem?_filter']
    by_cases own : row.2 = client <;> cases table[row]? <;> simp [own]
  rw [both, union, inter, Std.ExtHashMap.size_empty, Nat.add_zero]

theorem Represents.length_filtersOf (represents : subscriptions.Represents table)
    (client : String) :
    (subscriptions.filtersOf client).length = (table.filter fun row _ => row.2 = client).size := by
  let row (entry : String × Qos) : (String × String) × Qos := ((entry.1, client), entry.2)
  have once : (((subscriptions.filtersOf client).map row).map Prod.fst).Nodup := by
    have filters := nodup_filtersOf represents.sound client
    have pairs := filters.map (Prod.mk_left_injective client)
    rwa [List.map_map] at pairs ⊢
  have rows : ∀ key granted, (key, granted) ∈ (subscriptions.filtersOf client).map row ↔
      (table.filter fun row _ => row.2 = client)[key]? = some granted := by
    rintro ⟨filter, other⟩ granted
    have listed := @mem_live subscriptions represents.sound ⟨filter, other, granted⟩
    rw [Std.ExtHashMap.getElem?_filter', represents.granted, Option.filter_eq_some_iff, ← listed]
    simp only [List.mem_map, Prod.exists, mem_filtersOf, decide_eq_true_eq]
    constructor
    · rintro ⟨_, _, live, keys⟩
      cases keys
      exact ⟨live, rfl⟩
    · rintro ⟨live, rfl⟩
      exact ⟨filter, granted, live, rfl⟩
  rw [Table.size_eq_length once rows, List.length_map]

end Size

section Step

variable {subscriptions after : Subscriptions} {table : Table} {filter client : String}

theorem represents_empty (maxQos : Qos) (maxLevels : Nat) :
    (empty maxQos maxLevels).Represents ∅ where
  sound := sound_empty maxQos maxLevels
  granted filter client := by simp [granted?]
  count := Std.ExtHashMap.size_empty.symm

variable (represents : subscriptions.Represents table)
include represents

theorem Represents.mem_iff (filter client : String) :
    (filter, client) ∈ table ↔ (subscriptions.granted? filter client).isSome = true := by
  rw [Std.ExtHashMap.mem_iff_isSome_getElem?, represents.granted]

theorem Represents.subscribe {qos granted : Qos}
    (succeeds : subscriptions.subscribe filter client qos = .ok (after, granted)) :
    after.Represents (table.insert (filter, client) granted) := by
  refine ⟨represents.sound.subscribe succeeds, fun other otherClient => ?_, ?_⟩
  · rw [granted?_subscribe succeeds, Std.ExtHashMap.getElem?_insert, represents.granted]
    simp only [beq_iff_eq, Prod.mk.injEq, @eq_comm _ filter, @eq_comm _ client]
  · rw [count_subscribe succeeds, Std.ExtHashMap.size_insert, represents.count]
    simp only [represents.mem_iff]

theorem Represents.unsubscribe {removed : Bool}
    (succeeds : subscriptions.unsubscribe filter client = .ok (after, removed)) :
    after.Represents (table.erase (filter, client)) := by
  obtain ⟨flag, count⟩ := count_unsubscribe succeeds
  refine ⟨represents.sound.unsubscribe succeeds, fun other otherClient => ?_, ?_⟩
  · rw [granted?_unsubscribe succeeds, Std.ExtHashMap.getElem?_erase, represents.granted]
    simp only [beq_iff_eq, Prod.mk.injEq, @eq_comm _ filter, @eq_comm _ client]
  · rw [count, flag, Std.ExtHashMap.size_erase, represents.count]
    simp only [represents.mem_iff]

theorem Represents.unsubscribeAll (client : String) :
    (subscriptions.unsubscribeAll client).1.Represents
      (table.filter fun row _ => row.2 ≠ client) := by
  refine ⟨represents.sound.unsubscribeAll client, fun filter other => ?_, ?_⟩
  · rw [granted?_unsubscribeAll, Std.ExtHashMap.getElem?_filter', represents.granted]
    by_cases same : other = client
    · simp [same]
    · cases subscriptions.granted? filter other <;> simp [same]
  · have split := table.size_split client
    have removed := removed_unsubscribeAll subscriptions client
    rw [represents.length_filtersOf] at removed
    change subscriptions.count - (subscriptions.unsubscribeAll client).2 = _
    rw [represents.count]
    omega

theorem Represents.change (change : Change) :
    (subscriptions.change change).Represents
      (table.change subscriptions.maxQos subscriptions.maxLevels change) := by
  cases change with
  | subscribe filter client requested =>
      simp only [Subscriptions.change, Table.change, checkFilter]
      rcases subscribe_cases subscriptions filter client requested with
        ⟨fault, faulty, refused⟩ | ⟨valid, reached, accepted, _⟩
      · simpa only [refused, faulty] using represents
      · simpa only [accepted, valid] using represents.subscribe accepted
  | unsubscribe filter client =>
      simp only [Subscriptions.change, Table.change, checkFilter]
      rcases unsubscribe_cases subscriptions filter client with
        ⟨fault, faulty, refused⟩ | ⟨valid, reached, removed, accepted, _⟩
      · simpa only [refused, faulty] using represents
      · simpa only [accepted, valid] using represents.unsubscribe accepted
  | unsubscribeAll client => exact represents.unsubscribeAll client

end Step

section Read

variable {subscriptions : Subscriptions} {table : Table}
  (represents : subscriptions.Represents table) (filter client : String)
include represents

theorem Represents.valid (row : (filter, client) ∈ table) :
    checkFilter subscriptions.maxLevels filter = .ok () := by
  obtain ⟨granted, found⟩ := Option.isSome_iff_exists.mp ((represents.mem_iff filter client).mp row)
  exact checkFilter_eq_ok_iff.mpr (represents.sound.valid_of_granted found)

theorem Represents.get :
    ((subscriptions.subscribersOf? filter).bind
      fun subscribers : Subscribers => subscribers[client]?) = table[(filter, client)]? := by
  rw [represents.granted, subscribersOf?, parseFilter_eq]
  cases valid : filterFault? subscriptions.maxLevels filter with
  | some fault =>
      cases granted : subscriptions.granted? filter client with
      | none => rfl
      | some qos => exact absurd rfl (represents.sound.ne_of_faulty valid granted)
  | none =>
      simp only [granted?, subscribersAt, Node.payloadAt, Trie.get?]
      cases subscriptions.trie.root.find? (levelsOf filter) with
      | none => simp [Vacancy.vacant]
      | some node => rfl

theorem Represents.answer_unsubscribe :
    (subscriptions.unsubscribe filter client).map Prod.snd =
      (checkFilter subscriptions.maxLevels filter).map
        fun _ => table.contains (filter, client) := by
  rw [checkFilter]
  rcases unsubscribe_cases subscriptions filter client with
    ⟨fault, faulty, refused⟩ | ⟨valid, after, removed, accepted, _⟩
  · rw [refused, faulty]
    rfl
  · obtain ⟨flag, _⟩ := count_unsubscribe accepted
    rw [accepted, valid, Std.ExtHashMap.contains_eq_isSome_getElem?, represents.granted, ← flag]
    rfl

theorem Represents.lowersOne {after : Subscriptions}
    (removes : subscriptions.unsubscribe filter client = .ok (after, true)) :
    after.count + 1 = subscriptions.count := by
  obtain ⟨flag, lowered⟩ := count_unsubscribe removes
  have row := (represents.mem_iff filter client).mpr flag.symm
  have occupied : table.size ≠ 0 := by
    intro none
    rw [Std.ExtHashMap.eq_empty_iff_size_eq_zero.mpr none] at row
    exact Std.ExtHashMap.not_mem_empty row
  have total := represents.count
  rw [if_pos rfl] at lowered
  omega

theorem Represents.lowersAll :
    (subscriptions.unsubscribeAll client).1.count + (subscriptions.unsubscribeAll client).2 =
      subscriptions.count := by
  have others := (represents.unsubscribeAll client).count
  have split := table.size_split client
  have removed := removed_unsubscribeAll subscriptions client
  have total := represents.count
  rw [represents.length_filtersOf] at removed
  omega

theorem Represents.isEmpty_iff : subscriptions.isEmpty = true ↔ table = ∅ := by
  rw [isEmpty, beq_iff_eq, represents.count, Std.ExtHashMap.eq_empty_iff_size_eq_zero]

theorem Represents.filters (granted : Qos) :
    (filter, granted) ∈ subscriptions.filtersOf client ↔
      table[(filter, client)]? = some granted := by
  rw [mem_filtersOf, mem_live represents.sound, represents.granted]

theorem Represents.readsAs :
    subscriptions.ReadsAs subscriptions.maxQos subscriptions.maxLevels table where
  valid := represents.valid
  get := represents.get
  filters := represents.filters
  filtersOnce := nodup_filtersOf represents.sound
  size := represents.count
  isEmpty := represents.isEmpty_iff
  subscribe := answer_subscribe subscriptions
  unsubscribe := represents.answer_unsubscribe
  unsubscribeAll client :=
    (removed_unsubscribeAll subscriptions client).trans (represents.length_filtersOf client)
  lowersOne filter client _ := represents.lowersOne filter client
  lowersAll := represents.lowersAll

end Read

section History

variable (maxQos : Qos) (maxLevels : Nat)

theorem represents_after (history : List Change) :
    ((empty maxQos maxLevels).after history).Represents
      (Table.after maxQos maxLevels history) := by
  induction history using List.reverseRecOn with
  | nil => exact represents_empty maxQos maxLevels
  | append_singleton earlier change ih =>
      obtain ⟨sameLevels, sameQos⟩ := limits_after (empty maxQos maxLevels) earlier
      have next := ih.change change
      rw [sameLevels, sameQos] at next
      rw [after_append_singleton, Table.after, List.foldl_append]
      exact next

/-- After every history of changes the subscriptions can be used as the table that the same history
makes of an empty one. -/
theorem readsAs_after (history : List Change) :
    ((empty maxQos maxLevels).after history).ReadsAs maxQos maxLevels
      (Table.after maxQos maxLevels history) := by
  have reads := (represents_after maxQos maxLevels history).readsAs
  obtain ⟨sameLevels, sameQos⟩ := limits_after (empty maxQos maxLevels) history
  rw [sameLevels, sameQos] at reads
  exact reads

end History

end TopicBroker.Subscriptions

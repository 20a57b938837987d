import TopicBroker.Proofs.Topic.CanonicalTries

/-!
# Ending subscriptions one by one

The subscriptions of a client can be ended all at once, by a sweep of the whole
trie, or one by one, by following each of its filters and pruning the nodes on
the way back.  Each subscription that is ended takes one row from the table and
leaves the trie pruned.  A pruned trie is determined by its table, so both ways
lead to the same trie, in whatever order the filters are taken.
-/

namespace TopicBroker.Subscriptions

/-- End the subscriptions of a client to the given filters, one after the other, and list what is
answered. -/
def unsubscribeEach (subscriptions : Subscriptions) (client : String) :
    (filters : List String) → Except TopicError (Subscriptions × List Bool)
  | [] => .ok (subscriptions, [])
  | filter :: filters => do
    let (after, removed) ← subscriptions.unsubscribe filter client
    let (left, answers) ← after.unsubscribeEach client filters
    return (left, removed :: answers)

section Rows

variable {table : Table} {client : String}

theorem Table.filter_erase (table : Table) (filter client : String) :
    (table.erase (filter, client)).filter (fun row _ => row.2 ≠ client) =
      table.filter fun row _ => row.2 ≠ client := by
  apply Std.ExtHashMap.ext_getElem?
  intro row
  rw [Std.ExtHashMap.getElem?_filter', Std.ExtHashMap.getElem?_filter',
    Std.ExtHashMap.getElem?_erase]
  by_cases same : (filter, client) = row
  · cases table[row]? <;> simp [← same]
  · simp [same]

theorem Table.filter_of_absent (absent : ∀ filter, (filter, client) ∉ table) :
    table.filter (fun row _ => row.2 ≠ client) = table := by
  apply Std.ExtHashMap.ext_getElem?
  rintro ⟨filter, other⟩
  rw [Std.ExtHashMap.getElem?_filter']
  by_cases own : other = client
  · rw [own, Std.ExtHashMap.getElem?_eq_none (absent filter), Option.filter_none]
  · cases table[(filter, other)]? <;> simp [own]

end Rows

section Ending

variable {subscriptions other : Subscriptions} {table otherTable : Table} {client : String}

/-- What is left without a client depends only on the rows of all others. -/
theorem Represents.unsubscribeAll_congr (represents : subscriptions.Represents table)
    (otherRepresents : other.Represents otherTable) (sameQos : other.maxQos = subscriptions.maxQos)
    (sameLevels : other.maxLevels = subscriptions.maxLevels)
    (sameRows : otherTable.filter (fun row _ => row.2 ≠ client) =
      table.filter fun row _ => row.2 ≠ client) :
    (other.unsubscribeAll client).1 = (subscriptions.unsubscribeAll client).1 := by
  have left := otherRepresents.unsubscribeAll client
  rw [sameRows] at left
  exact left.eq (represents.unsubscribeAll client) (pruned_unsubscribeAll other client)
    (pruned_unsubscribeAll subscriptions client) sameQos sameLevels

theorem Represents.unsubscribeAll_of_absent (represents : subscriptions.Represents table)
    (pruned : subscriptions.trie.Pruned) (absent : ∀ filter, (filter, client) ∉ table) :
    (subscriptions.unsubscribeAll client).1 = subscriptions := by
  have left := represents.unsubscribeAll client
  rw [Table.filter_of_absent absent] at left
  exact left.eq represents (pruned_unsubscribeAll subscriptions client) pruned rfl rfl

/-- A subscription that is in place can be ended, and nothing but its row is gone then. -/
theorem Represents.unsubscribe_of_mem (represents : subscriptions.Represents table)
    {filter : String} (row : (filter, client) ∈ table) :
    ∃ after, subscriptions.unsubscribe filter client = .ok (after, true) ∧
      after.Represents (table.erase (filter, client)) ∧ after.maxQos = subscriptions.maxQos ∧
      after.maxLevels = subscriptions.maxLevels := by
  have valid := checkFilter_eq_ok_iff.mp (represents.valid filter client row)
  rcases unsubscribe_cases subscriptions filter client with
    ⟨fault, faulty, _⟩ | ⟨_, after, removed, accepted, revises⟩
  · rw [valid] at faulty
    cases faulty
  · have answer := (count_unsubscribe accepted).1
    rw [(represents.mem_iff filter client).mp row] at answer
    subst answer
    exact ⟨after, accepted, represents.unsubscribe accepted, revises.maxQos, revises.maxLevels⟩

/-- Taking the filters of a client in any order ends each of its subscriptions. -/
theorem Represents.unsubscribeEach (represents : subscriptions.Represents table)
    (pruned : subscriptions.trie.Pruned) {order : List String} (once : order.Nodup)
    (rows : ∀ filter, filter ∈ order ↔ (filter, client) ∈ table) :
    subscriptions.unsubscribeEach client order =
      .ok ((subscriptions.unsubscribeAll client).1, List.replicate order.length true) := by
  induction order generalizing subscriptions table with
  | nil =>
      have absent (filter : String) : (filter, client) ∉ table := fun row =>
        List.not_mem_nil ((rows filter).mpr row)
      rw [represents.unsubscribeAll_of_absent pruned absent]
      rfl
  | cons filter order ih =>
      obtain ⟨fresh, laterOnce⟩ := List.nodup_cons.mp once
      obtain ⟨after, accepted, afterRepresents, sameQos, sameLevels⟩ :=
        represents.unsubscribe_of_mem ((rows filter).mp (List.mem_cons_self ..))
      have laterRows (later : String) :
          later ∈ order ↔ (later, client) ∈ table.erase (filter, client) := by
        rw [Std.ExtHashMap.mem_erase, ← rows later, List.mem_cons]
        have different (member : later ∈ order) : filter ≠ later := fun same =>
          fresh (same ▸ member)
        grind
      have ended := ih afterRepresents (pruned_unsubscribe pruned accepted) laterOnce laterRows
      have sameEnd := represents.unsubscribeAll_congr afterRepresents sameQos sameLevels
        (Table.filter_erase table filter client)
      rw [Subscriptions.unsubscribeEach, accepted]
      simp only [bind, Except.bind, ended, sameEnd]
      rfl

end Ending

/-- After every history a client that ends its subscriptions one by one ends each of them, and
arrives at the same trie and counter as one that ends them all at once. -/
theorem ends_each_as_all (maxQos : Qos) (maxLevels : Nat) (history : List Change)
    (client : String) (order : List String)
    (listed : order.Perm
      ((((empty maxQos maxLevels).after history).filtersOf client).map Prod.fst)) :
    let subscriptions := (empty maxQos maxLevels).after history
    subscriptions.unsubscribeEach client order =
        .ok ((subscriptions.unsubscribeAll client).1, List.replicate order.length true) ∧
      (subscriptions.unsubscribeAll client).2 = (subscriptions.filtersOf client).length := by
  intro subscriptions
  have represents : subscriptions.Represents (Table.after maxQos maxLevels history) :=
    represents_after maxQos maxLevels history
  have once : order.Nodup :=
    listed.nodup_iff.mpr (nodup_filtersOf represents.sound client)
  have rows (filter : String) :
      filter ∈ order ↔ (filter, client) ∈ Table.after maxQos maxLevels history := by
    rw [listed.mem_iff, List.mem_map, Std.ExtHashMap.mem_iff_isSome_getElem?,
      Option.isSome_iff_exists]
    simp [subscriptions, ← represents.filters]
  exact ⟨represents.unsubscribeEach (pruned_after maxQos maxLevels history) once rows,
    removed_unsubscribeAll subscriptions client⟩

/-- Filters on the way to each other, one of them shared with another client. -/
theorem ends_each_as_all_from_the_shortest_filter :
    let history : List Change :=
      [.subscribe "a/b/c" "ann" .exactlyOnce, .subscribe "a" "ann" .atMostOnce,
        .subscribe "a/b" "bob" .atLeastOnce, .subscribe "a/b" "ann" .atLeastOnce,
        .subscribe "/+/#" "ann" .exactlyOnce, .unsubscribe "a/b" "cid"]
    let subscriptions := (empty .atLeastOnce 0).after history
    let order := ["a", "a/b", "/+/#", "a/b/c"]
    order.Perm ((subscriptions.filtersOf "ann").map Prod.fst) ∧
      subscriptions.unsubscribeEach "ann" order =
        .ok ((subscriptions.unsubscribeAll "ann").1, [true, true, true, true]) ∧
      (subscriptions.unsubscribeAll "ann").2 = 4 := by
  intro history subscriptions order
  have filters : (subscriptions.filtersOf "ann").map Prod.fst = ["/+/#", "a", "a/b", "a/b/c"] := by
    decide +kernel
  have listed : order.Perm ((subscriptions.filtersOf "ann").map Prod.fst) := by
    rw [filters]
    decide
  obtain ⟨each, all⟩ := ends_each_as_all .atLeastOnce 0 history "ann" order listed
  refine ⟨listed, each, all.trans ?_⟩
  rw [← List.length_map Prod.fst, filters]
  rfl

end TopicBroker.Subscriptions

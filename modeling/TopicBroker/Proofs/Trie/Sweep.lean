import TopicBroker.Proofs.Trie.Shape

/-!
# Changing every payload

A change of every payload is a sweep over the trie.  It comes to each node once,
also to the vacant ones, and it judges a node only when everything below has
been dealt with.  So one sweep is enough: a chain of vacant nodes goes away as a
whole, at whatever depth it stands.

What is left is pruned, whatever trie the sweep has found.  It stores what the
change makes of the payloads that were there, and its nodes are those that the
stored paths need.
-/

namespace TopicBroker

variable {α β : Type}

namespace Trie

/-- All nodes, each as the path to it with its payload, the root first. -/
def nodes (trie : Trie α) : List (List String × α) :=
  ([], trie.root.payload) :: trie.root.branches.nodes

/-- The list has each node of the trie once, with its payload, and nothing else. -/
structure Enumerates (trie : Trie α) (visited : List (List String × α)) : Prop where
  once : (visited.map Prod.fst).Nodup
  mem : ∀ path payload, (path, payload) ∈ visited ↔ trie.get? path = some payload
  length : visited.length = trie.nodeCount

theorem enumerates_nodes (trie : Trie α) : trie.Enumerates trie.nodes where
  once := by
    rw [nodes, List.map_cons, Branches.map_fst_nodes]
    exact List.nodup_cons.mpr
      ⟨trie.root.branches.nil_notMem_nodePaths, Branches.nodup_nodePaths trie.ordered⟩
  mem path payload := by
    rw [nodes, List.mem_cons, Branches.mem_nodes trie.ordered trie.root.payload, get?]
    cases path with
    | nil => simp [Node.find?, eq_comm]
    | cons level rest => simp [Node.payload?]
  length := by
    have below : trie.root.branches.nodes.length = trie.root.branches.count := by
      rw [← List.length_map Prod.fst, Branches.map_fst_nodes, Branches.length_nodePaths]
    rw [nodes, List.length_cons, below, nodeCount, Nat.add_comm]

/-- A trie with some of the nodes of another one, and as many, has all of them. -/
theorem get?_of_nodeCount_eq {trie left : Trie α}
    (fewer : ∀ path payload, left.get? path = some payload → trie.get? path = some payload)
    (same : left.nodeCount = trie.nodeCount) {path : List String} {payload : α}
    (found : trie.get? path = some payload) : left.get? path = some payload := by
  have leftNodes := left.enumerates_nodes
  have trieNodes := trie.enumerates_nodes
  have included : left.nodes ⊆ trie.nodes := by
    rintro ⟨other, value⟩ member
    exact (trieNodes.mem other value).mpr (fewer other value ((leftNodes.mem other value).mp member))
  have longer : trie.nodes.length ≤ left.nodes.length := by
    rw [trieNodes.length, leftNodes.length, same]
  have equal : left.nodes.Perm trie.nodes :=
    (List.subperm_of_subset (List.Nodup.of_map _ leftNodes.once) included).perm_of_length_le longer
  exact (leftNodes.mem path payload).mp (equal.mem_iff.mpr ((trieNodes.mem path payload).mpr found))

end Trie

variable [Vacancy α]

theorem Branches.updateAll_snd_eq_map (change : α → α × β) (results : List β)
    (branches : Branches α) :
    (branches.updateAll change results).2 =
      (branches.nodes.map fun node => (change node.2).2) ++ results := by
  induction branches generalizing results with
  | none => rfl
  | branch level payload below after belowIH afterIH =>
      simp only [updateAll, belowIH, afterIH, nodes, List.map_append, List.map_map, List.map_cons,
        List.cons_append, List.append_assoc]
      rfl

namespace Trie

/-- The results of a sweep are those of its visits to the nodes. -/
theorem updateAll_snd (trie : Trie α) (change : α → α × β) :
    (trie.updateAll change).2 = trie.nodes.map fun node => (change node.2).2 := by
  have below := Branches.updateAll_snd_eq_map change [] trie.root.branches
  rw [List.append_nil] at below
  rw [updateAll, nodes, List.map_cons, below]

theorem pruned_updateAll (trie : Trie α) (change : α → α × β) :
    (trie.updateAll change).1.Pruned :=
  Branches.pruned_updateAll change [] trie.root.branches

theorem stored?_updateAll (trie : Trie α) (change : α → α × β) (path : List String) :
    (trie.updateAll change).1.stored? path =
      (trie.get? path).bind fun payload => occupant? (change payload).1 := by
  rw [stored?_eq]
  exact Node.storedAt_changeAll change trie.ordered path

/-- One sweep with a change brings the trie into the shape that its contents ask for. -/
structure Canonicalises (trie : Trie α) (change : α → α × β) : Prop where
  visits : ∃ visited, trie.Enumerates visited ∧
    (trie.updateAll change).2 = visited.map fun node => (change node.2).2
  stored : ∀ path, (trie.updateAll change).1.stored? path =
    (trie.get? path).bind fun payload => occupant? (change payload).1
  shaped : (trie.updateAll change).1.Shaped
    {path | ∃ payload, trie.get? path = some payload ∧ isVacant (change payload).1 = false}
  isEmpty_iff : (trie.updateAll change).1.isEmpty = true ↔
    ∀ path, (trie.updateAll change).1.stored? path = none

/-- A sweep brings every trie into the shape that its contents ask for, whatever the change is. -/
theorem canonicalises (trie : Trie α) (change : α → α × β) : trie.Canonicalises change where
  visits := ⟨trie.nodes, trie.enumerates_nodes, trie.updateAll_snd change⟩
  stored := trie.stored?_updateAll change
  shaped := by
    have shaped := shaped_of_pruned (trie.pruned_updateAll change)
    have occupied (path : List String) :
        (∃ stored, (trie.updateAll change).1.root.Stores path stored) ↔
          ∃ payload, trie.get? path = some payload ∧ isVacant (change payload).1 = false := by
      simp only [← stored?_eq_some_iff, stored?_updateAll, Option.bind_eq_some_iff,
        occupant?_eq_some_iff]
      constructor
      · rintro ⟨stored, payload, found, rfl, busy⟩
        exact ⟨payload, found, busy⟩
      · rintro ⟨payload, found, busy⟩
        exact ⟨_, payload, found, rfl, busy⟩
    simpa only [occupied] using shaped
  isEmpty_iff := isEmpty_iff (trie.pruned_updateAll change)

end Trie

end TopicBroker

import Mathlib.Data.Set.Card
import Mathlib.Data.String.Basic
import TopicBroker.Proofs.Trie.Contents

/-!
# The shape of a trie

What a trie stores does not tell which nodes it has, since nodes that store
nothing may stand in it.  A trie is pruned if no node below its root is idle.
Then each node leads to something that is stored, so the nodes stand exactly at
the beginnings of the stored paths, and pruned tries that store the same are
equal.

A change that drops idle nodes on its way keeps a trie pruned.  A change that
creates nodes does so if it leaves something at the end of the path, and a
change of every payload prunes whatever trie it finds.
-/

namespace TopicBroker

variable {α β : Type}

namespace Branches

/-- All nodes below, each as the path to it with its payload, in the order in which a change of every
payload comes to them. -/
def nodes : Branches α → List (List String × α)
  | .none => []
  | .branch level payload below after =>
    (([], payload) :: below.nodes).map (fun node => (level :: node.1, node.2)) ++ after.nodes

/-- The paths to all nodes below. -/
def nodePaths : Branches α → List (List String)
  | .none => []
  | .branch level _ below after => ([] :: below.nodePaths).map (level :: ·) ++ after.nodePaths

theorem length_nodePaths (branches : Branches α) : branches.nodePaths.length = branches.count := by
  induction branches with
  | none => rfl
  | branch level payload below after belowIH afterIH =>
      simp only [nodePaths, count, List.length_append, List.length_map, List.length_cons, belowIH,
        afterIH]
      omega

theorem Ordered.find?_before {key level : String} {payload : α} {below after : Branches α}
    (ordered : (Branches.branch level payload below after).Ordered) (less : key < level) :
    (Branches.branch level payload below after).find? key = Option.none := by
  cases found : (Branches.branch level payload below after).find? key with
  | none => rfl
  | some node =>
      have different : key ≠ level := ne_of_lt less
      have foundAfter : after.find? key = some node := by
        simpa [find?, different] using found
      have greater : level < key := ordered.2.1.lt_of_find? ordered.2.2 foundAfter
      exact absurd (lt_trans less greater) (lt_irrefl key)

end Branches

namespace Node

theorem find?_append (node : Node α) (path rest : List String) :
    node.find? (path ++ rest) = (node.find? path).bind fun child => child.find? rest := by
  induction path generalizing node with
  | nil => rfl
  | cons level path ih =>
      simp only [List.cons_append, find?]
      cases node.branches.find? level with
      | none => rfl
      | some child => exact ih child

theorem find?_cons_branch (own : α) (head level : String) (rest : List String) (payload : α)
    (below after : Branches α) :
    (Node.mk own (.branch level payload below after)).find? (head :: rest) =
      if head = level then (Node.mk payload below).find? rest
      else (Node.mk own after).find? (head :: rest) := by
  simp only [find?, Branches.find?]
  split <;> rfl

end Node

namespace Branches

theorem mem_nodes {branches : Branches α} (ordered : branches.Ordered) (own : α)
    {path : List String} {payload : α} :
    (path, payload) ∈ branches.nodes ↔
      path ≠ [] ∧ (Node.mk own branches).payload? path = some payload := by
  induction branches generalizing path own with
  | none =>
      cases path with
      | nil => simp [nodes]
      | cons head rest => simp [nodes, Node.payload?, Node.find?, find?]
  | branch level value below after belowIH afterIH =>
      have inside (rest : List String) : (rest, payload) ∈ ([], value) :: below.nodes ↔
          (Node.mk value below).payload? rest = some payload := by
        cases rest with
        | nil => simp [Node.payload?, Node.find?, belowIH ordered.1 value, eq_comm]
        | cons head rest => simp [belowIH ordered.1 value]
      rw [nodes, List.mem_append, afterIH ordered.2.1 own, List.mem_map]
      cases path with
      | nil => simp
      | cons head rest =>
          simp only [Prod.exists, Prod.mk.injEq, List.cons.injEq, Node.payload?,
            Node.find?_cons_branch] at inside ⊢
          by_cases same : head = level
          · subst same
            have nothing : (Node.mk own after).find? (head :: rest) = Option.none := by
              simp [Node.find?, ordered.find?_after]
            simp [nothing, inside]
          · simp [same, Ne.symm same]

theorem map_fst_nodes (branches : Branches α) :
    branches.nodes.map Prod.fst = branches.nodePaths := by
  induction branches with
  | none => rfl
  | branch level payload below after belowIH afterIH =>
      simp [nodes, nodePaths, ← belowIH, ← afterIH, Function.comp_def]

theorem mem_nodePaths {branches : Branches α} (ordered : branches.Ordered) (own : α)
    {path : List String} :
    path ∈ branches.nodePaths ↔
      path ≠ [] ∧ ((Node.mk own branches).find? path).isSome = true := by
  rw [← map_fst_nodes, List.mem_map]
  simp only [Prod.exists, mem_nodes ordered own, Node.payload?]
  cases found : (Node.mk own branches).find? path with
  | none => simp [found]
  | some node => simp [found]

theorem nil_notMem_nodePaths (branches : Branches α) : [] ∉ branches.nodePaths := by
  induction branches with
  | none => simp [nodePaths]
  | branch level payload below after _ afterIH => simp [nodePaths, afterIH]

theorem nodup_nodePaths {branches : Branches α} (ordered : branches.Ordered) :
    branches.nodePaths.Nodup := by
  induction branches with
  | none => exact List.nodup_nil
  | branch level payload below after belowIH afterIH =>
      have inside : ([] :: below.nodePaths).Nodup :=
        List.nodup_cons.mpr ⟨below.nil_notMem_nodePaths, belowIH ordered.1⟩
      have prefixed : (([] :: below.nodePaths).map (level :: ·)).Nodup :=
        inside.map fun _ _ same => (List.cons.inj same).2
      refine List.nodup_append.mpr ⟨prefixed, afterIH ordered.2.1, ?_⟩
      intro first firstMember second secondMember same
      obtain ⟨rest, _, rfl⟩ := List.mem_map.mp firstMember
      rw [← same, mem_nodePaths ordered.2.1 payload] at secondMember
      simp [Node.find?, ordered.find?_after] at secondMember

/-- Ordered branches with the same nodes and payloads are equal. -/
theorem ext_payloads {first second : Branches α} (firstOrdered : first.Ordered)
    (secondOrdered : second.Ordered) (own other : α)
    (same : ∀ level rest, ((Node.mk own first).find? (level :: rest)).map Node.payload =
      ((Node.mk other second).find? (level :: rest)).map Node.payload) : first = second := by
  induction first generalizing second own other with
  | none =>
      cases second with
      | none => rfl
      | branch level payload below after =>
          have missing := same level []
          simp [Node.find?, find?] at missing
  | branch level payload below after belowIH afterIH =>
      cases second with
      | none =>
          have missing := same level []
          simp [Node.find?, find?] at missing
      | branch otherLevel otherPayload otherBelow otherAfter =>
          rcases lt_trichotomy level otherLevel with less | equal | greater
          · have missing := same level []
            rw [Node.find?, Node.find?, secondOrdered.find?_before less] at missing
            simp [find?, Node.find?] at missing
          · subst equal
            have samePayload : payload = otherPayload := by
              simpa [Node.find?, find?] using same level []
            have sameBelow : below = otherBelow := by
              apply belowIH firstOrdered.1 secondOrdered.1 payload otherPayload
              intro head rest
              simpa [Node.find?_cons_branch] using same level (head :: rest)
            have sameAfter : after = otherAfter := by
              apply afterIH firstOrdered.2.1 secondOrdered.2.1 own other
              intro head rest
              by_cases here : head = level
              · rw [here, Node.find?, Node.find?, firstOrdered.find?_after,
                  secondOrdered.find?_after]
              · simpa [Node.find?_cons_branch, here] using same head rest
            rw [samePayload, sameBelow, sameAfter]
          · have missing := same otherLevel []
            rw [Node.find?, Node.find?, firstOrdered.find?_before greater] at missing
            simp [find?, Node.find?] at missing

variable [Vacancy α]

/-- No node below is idle. -/
def Pruned : Branches α → Prop
  | .none => True
  | .branch _ payload below after =>
    Node.isIdle ⟨payload, below⟩ = false ∧ below.Pruned ∧ after.Pruned

theorem Pruned.of_find? {key : String} {node : Node α} {branches : Branches α}
    (pruned : branches.Pruned) (found : branches.find? key = some node) :
    node.isIdle = false ∧ node.branches.Pruned := by
  induction branches with
  | none => cases found
  | branch level payload below after _ ih =>
      by_cases same : key = level
      · simp only [find?, same, if_true, Option.some.injEq] at found
        exact found ▸ ⟨pruned.1, pruned.2.1⟩
      · exact ih pruned.2.2 (by simpa [find?, same] using found)

theorem Pruned.put {node : Node α} {branches : Branches α} (pruned : branches.Pruned)
    (busy : node.isIdle = false) (nodePruned : node.branches.Pruned) (key : String) :
    (branches.put key node).Pruned := by
  induction branches with
  | none => exact ⟨busy, nodePruned, trivial⟩
  | branch level payload below after _ ih =>
      simp only [Branches.put]
      split
      · exact ⟨busy, nodePruned, pruned.2.2⟩
      · split
        · exact ⟨busy, nodePruned, pruned⟩
        · exact ⟨pruned.1, pruned.2.1, ih pruned.2.2⟩

theorem Pruned.erase {branches : Branches α} (pruned : branches.Pruned) (key : String) :
    (branches.erase key).Pruned := by
  induction branches with
  | none => trivial
  | branch level payload below after _ ih =>
      simp only [Branches.erase]
      split
      · exact ih pruned.2.2
      · exact ⟨pruned.1, pruned.2.1, ih pruned.2.2⟩

/-- Changing every payload leaves no idle node, whatever nodes there were. -/
theorem pruned_updateAll (change : α → α × β) (results : List β) (branches : Branches α) :
    (branches.updateAll change results).1.Pruned := by
  induction branches generalizing results with
  | none => trivial
  | branch level payload below after belowIH afterIH =>
      simp only [updateAll]
      split
      · exact afterIH results
      · rename_i busy
        exact ⟨by simpa using busy, belowIH _, afterIH results⟩

end Branches

namespace Node

variable [Vacancy α]

theorem isIdle_of_occupied {node : Node α} (occupied : isVacant node.payload = false) :
    node.isIdle = false := by
  simp [isIdle, occupied]

theorem pruned_attach {node child : Node α} (pruned : node.branches.Pruned)
    (childPruned : child.branches.Pruned) (level : String) :
    (node.attach level child).branches.Pruned := by
  unfold attach
  split
  case isTrue => exact pruned.erase level
  case isFalse busy => exact pruned.put (by simpa using busy) childPruned level

theorem pruned_update (change : α → α × β) (path : List String) {node : Node α}
    (pruned : node.branches.Pruned) : (node.update change path).1.branches.Pruned := by
  induction path generalizing node with
  | nil => exact pruned
  | cons level rest ih =>
      unfold update
      split
      · exact pruned
      · rename_i child found
        exact pruned_attach pruned (ih (pruned.of_find? found).2) level

theorem isIdle_upsert {change : α → α × β} {path : List String} {node : Node α}
    (occupied : isVacant (change (node.payloadAt path)).1 = false) :
    (node.upsert change path).1.isIdle = false := by
  cases path with
  | nil => exact isIdle_of_occupied occupied
  | cons level rest =>
      have branches (child : Node α) : (node.branches.put level child).isNone = false := by
        cases node.branches with
        | none => rfl
        | branch =>
            simp only [Branches.put]
            split
            · rfl
            · split <;> rfl
      simp [upsert, isIdle, branches]

/-- Nodes that are created lead to what is left at the end of the path. -/
theorem pruned_upsert {change : α → α × β} {path : List String} {node : Node α}
    (pruned : node.branches.Pruned)
    (occupied : isVacant (change (node.payloadAt path)).1 = false) :
    (node.upsert change path).1.branches.Pruned := by
  induction path generalizing node with
  | nil => exact pruned
  | cons level rest ih =>
      cases found : node.branches.find? level with
      | none =>
          have below : isVacant (change ((idle : Node α).payloadAt rest)).1 = false := by
            rwa [payloadAt_cons_of_missing found, ← payloadAt_idle rest] at occupied
          have start : (idle : Node α).branches.Pruned := trivial
          simpa [upsert, found] using pruned.put (isIdle_upsert below) (ih start below) level
      | some child =>
          have below : isVacant (change (child.payloadAt rest)).1 = false := by
            rwa [payloadAt_cons_of_find? found] at occupied
          have childPruned := (pruned.of_find? found).2
          simpa [upsert, found] using
            pruned.put (isIdle_upsert below) (ih childPruned below) level

theorem pruned_of_find? {node child : Node α} {path : List String} (pruned : node.branches.Pruned)
    (found : node.find? path = some child) :
    (path ≠ [] → child.isIdle = false) ∧ child.branches.Pruned := by
  induction path generalizing node with
  | nil =>
      cases found
      exact ⟨fun nonempty => absurd rfl nonempty, pruned⟩
  | cons level rest ih =>
      obtain ⟨next, step, further⟩ := Option.bind_eq_some_iff.mp found
      obtain ⟨busy, nextPruned⟩ := pruned.of_find? step
      obtain ⟨lower, childPruned⟩ := ih nextPruned further
      refine ⟨fun _ => ?_, childPruned⟩
      cases rest with
      | nil =>
          cases further
          exact busy
      | cons => exact lower (List.cons_ne_nil _ _)

/-- In a pruned tree every node that is not idle leads to something that is stored. -/
theorem exists_stores {payload : α} {branches : Branches α} (pruned : branches.Pruned)
    (busy : (Node.mk payload branches).isIdle = false) :
    ∃ path stored, (Node.mk payload branches).Stores path stored := by
  induction branches generalizing payload with
  | none =>
      have occupied : isVacant payload = false := by
        simpa [isIdle, Branches.isNone] using busy
      exact ⟨[], payload, rfl, occupied⟩
  | branch level value below after belowIH _ =>
      obtain ⟨path, stored, inside⟩ := belowIH pruned.2.1 pruned.1
      refine ⟨level :: path, stored, stores_cons.mpr ⟨⟨value, below⟩, ?_, inside⟩⟩
      simp [Branches.find?]

theorem isSome_find?_of_stores {node : Node α} {path : List String} {stored : α}
    (stores : node.Stores path stored) : (node.find? path).isSome = true := by
  cases found : node.find? path with
  | some => rfl
  | none =>
      obtain ⟨rfl, occupied⟩ := stores
      rw [payloadAt_of_find?_eq_none found, isVacant_vacant] at occupied
      cases occupied

/-- The nodes of a pruned tree stand at the beginnings of the stored paths. -/
theorem isSome_find?_iff {node : Node α} (pruned : node.branches.Pruned) {path : List String} :
    (node.find? path).isSome = true ↔
      path = [] ∨ ∃ whole, path <+: whole ∧ ∃ stored, node.Stores whole stored := by
  constructor
  · intro present
    by_cases nonempty : path = []
    · exact Or.inl nonempty
    · obtain ⟨child, found⟩ := Option.isSome_iff_exists.mp present
      obtain ⟨busy, childPruned⟩ := pruned_of_find? pruned found
      obtain ⟨rest, stored, below, occupied⟩ := exists_stores childPruned (busy nonempty)
      refine Or.inr ⟨path ++ rest, List.prefix_append path rest, stored, ?_, occupied⟩
      simpa [payloadAt, find?_append, found] using below
  · rintro (rfl | ⟨_, ⟨rest, rfl⟩, stored, stores⟩)
    · rfl
    · have whole := isSome_find?_of_stores stores
      rw [find?_append] at whole
      cases found : node.find? path with
      | some => rfl
      | none => simp [found] at whole

end Node

/-- The beginnings of the given paths.  The empty path is always one of them. -/
def Beginnings (occupied : Set (List String)) : Set (List String) :=
  {path | path = [] ∨ ∃ whole ∈ occupied, path <+: whole}

namespace Trie

variable [Vacancy α] {first second trie : Trie α}

/-- No node is idle, except perhaps the root. -/
def Pruned (trie : Trie α) : Prop := trie.root.branches.Pruned

/-- The trie has the nodes that storing something at these paths needs, and no others. -/
structure Shaped (trie : Trie α) (occupied : Set (List String)) : Prop where
  busy : ∀ path node, path ≠ [] → trie.root.find? path = some node →
    isVacant node.payload = false ∨ node.branches ≠ .none
  nodes : ∀ path, trie.get? path ≠ none ↔ path ∈ Beginnings occupied
  nodeCount : (trie.nodeCount : ℕ∞) = (Beginnings occupied).encard
  alone : occupied = ∅ → trie.nodeCount = 1

theorem isSome_find?_iff (pruned : trie.Pruned) (path : List String) :
    (trie.root.find? path).isSome = true ↔
      path = [] ∨ ∃ whole, path <+: whole ∧ ∃ stored, trie.root.Stores whole stored :=
  Node.isSome_find?_iff pruned

theorem beginnings_eq (pruned : trie.Pruned) :
    Beginnings {path | ∃ stored, trie.root.Stores path stored} =
      {path | path ∈ [] :: trie.root.branches.nodePaths} := by
  ext path
  have nodes := isSome_find?_iff pruned path
  simp only [Beginnings, Set.mem_ofPred_eq, List.mem_cons,
    Branches.mem_nodePaths trie.ordered trie.root.payload]
  constructor
  · rintro (rfl | ⟨whole, stored, begins⟩)
    · exact Or.inl rfl
    · by_cases empty : path = []
      · exact Or.inl empty
      · exact Or.inr ⟨empty, nodes.mpr (Or.inr ⟨whole, begins, stored⟩)⟩
  · rintro (rfl | ⟨nonempty, present⟩)
    · exact Or.inl rfl
    · obtain ⟨whole, begins, stored⟩ := (nodes.mp present).resolve_left nonempty
      exact Or.inr ⟨whole, stored, begins⟩

theorem encard_beginnings (pruned : trie.Pruned) :
    (Beginnings {path | ∃ stored, trie.root.Stores path stored}).encard = trie.nodeCount := by
  have once : ([] :: trie.root.branches.nodePaths).Nodup :=
    List.nodup_cons.mpr
      ⟨trie.root.branches.nil_notMem_nodePaths, Branches.nodup_nodePaths trie.ordered⟩
  have listed : {path | path ∈ [] :: trie.root.branches.nodePaths} =
      (([] :: trie.root.branches.nodePaths).toFinset : Set (List String)) := by
    ext path
    simp
  rw [beginnings_eq pruned, listed, Set.encard_coe_eq_coe_finsetCard,
    List.toFinset_card_of_nodup once, List.length_cons, Branches.length_nodePaths, nodeCount,
    Nat.add_comm]

theorem beginnings_empty : Beginnings ∅ = {[]} := by
  ext path
  simp [Beginnings]

/-- A pruned trie has the nodes that its stored paths need. -/
theorem shaped_of_pruned (pruned : trie.Pruned) :
    trie.Shaped {path | ∃ stored, trie.root.Stores path stored} where
  busy path node nonempty found := by
    have busy := (Node.pruned_of_find? pruned found).1 nonempty
    rw [Node.isIdle, Bool.and_eq_false_iff] at busy
    refine busy.imp id fun leads leaf => ?_
    rw [leaf] at leads
    cases leads
  nodes path := by
    have nodes := isSome_find?_iff pruned path
    simp only [get?, ne_eq, Option.map_eq_none_iff, ← Option.isSome_iff_ne_none, nodes, Beginnings,
      Set.mem_ofPred_eq, and_comm]
  nodeCount := (encard_beginnings pruned).symm
  alone nothing := by
    have count := encard_beginnings pruned
    rw [nothing, beginnings_empty, Set.encard_singleton] at count
    exact_mod_cast count.symm

/-- A pruned trie is empty if nothing is stored in it. -/
theorem isEmpty_iff (pruned : trie.Pruned) :
    trie.isEmpty = true ↔ ∀ path, trie.stored? path = none := by
  constructor
  · intro idle path
    rw [stored?_eq]
    exact Node.storedAt_of_isIdle idle path
  · intro nothing
    by_contra busy
    rw [Bool.not_eq_true] at busy
    obtain ⟨path, stored, stores⟩ := Node.exists_stores pruned busy
    have found : trie.stored? path = some stored := stored?_eq_some_iff.mpr stores
    rw [nothing path] at found
    cases found

omit [Vacancy α] in
/-- Tries with the same nodes and payloads are equal. -/
theorem ext_get? (same : ∀ path, first.get? path = second.get? path) : first = second := by
  have sameBranches : first.root.branches = second.root.branches :=
    Branches.ext_payloads first.ordered second.ordered first.root.payload second.root.payload
      fun level rest => same (level :: rest)
  have samePayload : first.root.payload = second.root.payload := Option.some.inj (same [])
  apply ext
  calc first.root = ⟨first.root.payload, first.root.branches⟩ := rfl
    _ = second.root := by rw [samePayload, sameBranches]

/-- Pruned tries that store the same are equal. -/
theorem eq_of_payloadAt (firstPruned : first.Pruned) (secondPruned : second.Pruned)
    (same : ∀ path, first.root.payloadAt path = second.root.payloadAt path) : first = second := by
  have sameNodes (path : List String) :
      (first.root.find? path).isSome = (second.root.find? path).isSome := by
    rw [Bool.eq_iff_iff, Node.isSome_find?_iff firstPruned, Node.isSome_find?_iff secondPruned]
    simp only [Node.Stores, same]
  apply ext_get?
  intro path
  have present := sameNodes path
  have payloads := same path
  unfold Node.payloadAt at payloads
  unfold get?
  cases found : first.root.find? path with
  | none =>
      have absent : second.root.find? path = none := by simpa [found] using present.symm
      rw [absent]
  | some node =>
      rw [found] at present payloads
      obtain ⟨other, also⟩ := Option.isSome_iff_exists.mp present.symm
      rw [also] at payloads
      rw [also]
      exact congrArg some payloads

end Trie

end TopicBroker

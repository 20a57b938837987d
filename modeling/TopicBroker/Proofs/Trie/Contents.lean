import TopicBroker.Trie.Search
import Mathlib.Data.List.Nodup

/-!
# What a trie holds

A trie is an assignment of payloads to paths: `Node.payloadAt` reads a path and
answers with the payload of a new node where no node exists.  What the path
stores, `Node.storedAt`, is this payload unless it is vacant.  This file says
what each way of writing to a trie does to what is stored.  Dropping idle nodes
never shows, because an idle node stores nothing at any path.

The payloads themselves tell more: a vacant payload may differ from that of a
new node, and dropping its node shows then.  Where the payload type has one
vacant payload only, what is stored determines the payloads.

The listing of a node agrees with what it stores: it holds each path whose
payload is not vacant exactly once.  Vacant nodes that are in the tree are not
listed, and a change that answers them in the negative does not count them.
-/

namespace TopicBroker

variable {α β : Type}

namespace Branches

theorem Ordered.lt_of_find? {bound key : String} {node : Node α} {branches : Branches α}
    (ordered : branches.Ordered) (above : branches.StartAbove bound)
    (found : branches.find? key = some node) : bound < key := by
  induction branches with
  | none => cases found
  | branch level payload below after _ ih =>
      by_cases same : key = level
      · exact same ▸ above
      · have foundAfter : after.find? key = some node := by
          simpa [find?, same] using found
        exact ih ordered.2.1 (ordered.2.2.trans above) foundAfter

/-- Behind a branch of the same level nothing is left to be found. -/
theorem Ordered.find?_after {level : String} {payload : α} {below after : Branches α}
    (ordered : (Branches.branch level payload below after).Ordered) :
    after.find? level = Option.none := by
  cases found : after.find? level with
  | none => rfl
  | some node =>
      have less : level < level := ordered.2.1.lt_of_find? ordered.2.2 found
      exact absurd less (String.lt_irrefl level)

end Branches

namespace Node

/-- The payload of the node at the end of a path, if there is a node. -/
def payload? (node : Node α) (path : List String) : Option α :=
  (node.find? path).map Node.payload

theorem payload?_cons_of_find? {node child : Node α} {level : String}
    (found : node.branches.find? level = some child) (rest : List String) :
    node.payload? (level :: rest) = child.payload? rest := by
  simp [payload?, find?, found]

theorem payload?_cons_of_missing {node : Node α} {level : String}
    (missing : node.branches.find? level = none) (rest : List String) :
    node.payload? (level :: rest) = none := by
  simp [payload?, find?, missing]

end Node

variable [Vacancy α]

/-- A payload type in which nothing is vacant but the payload of a new node. -/
class UniqueVacancy (α : Type) [Vacancy α] : Prop where
  eq_vacant : ∀ {payload : α}, isVacant payload = true → payload = Vacancy.vacant

instance {α : Type} : UniqueVacancy (Option α) where
  eq_vacant := Option.isNone_iff_eq_none.mp

/-- A change that leaves vacant payloads vacant. -/
def KeepsVacant (change : α → α) : Prop :=
  ∀ payload, isVacant payload = true → isVacant (change payload) = true

/-- What a payload stores: itself, or nothing if it is vacant. -/
def occupant? (payload : α) : Option α :=
  if isVacant payload then none else some payload

theorem occupant?_eq_some_iff {payload stored : α} :
    occupant? payload = some stored ↔ payload = stored ∧ isVacant stored = false := by
  unfold occupant?
  split
  case isTrue vacant =>
      simp only [reduceCtorEq, false_iff]
      rintro ⟨rfl, occupied⟩
      simp [vacant] at occupied
  case isFalse occupied =>
      rw [Bool.not_eq_true] at occupied
      rw [Option.some.injEq]
      exact ⟨fun same => ⟨same, same ▸ occupied⟩, And.left⟩

theorem occupant?_of_isVacant {payload : α} (vacant : isVacant payload = true) :
    occupant? payload = none :=
  if_pos vacant

@[simp]
theorem occupant?_vacant : occupant? (Vacancy.vacant : α) = none :=
  occupant?_of_isVacant isVacant_vacant

theorem occupant?_injective [UniqueVacancy α] : Function.Injective (occupant? (α := α)) := by
  intro first second same
  cases stored : occupant? second with
  | some payload =>
      rw [stored] at same
      rw [(occupant?_eq_some_iff.mp same).1, (occupant?_eq_some_iff.mp stored).1]
  | none =>
      have vacant {payload : α} (nothing : occupant? payload = none) :
          payload = Vacancy.vacant := by
        refine UniqueVacancy.eq_vacant ?_
        by_contra occupied
        simp [occupant?, occupied] at nothing
      rw [vacant stored, vacant (same.trans stored)]

/-- What a change stores that keeps vacant payloads vacant depends on what was stored only. -/
theorem KeepsVacant.occupant?_eq_bind {change : α → α} (keeps : KeepsVacant change) (payload : α) :
    occupant? (change payload) =
      (occupant? payload).bind fun stored => occupant? (change stored) := by
  cases vacant : isVacant payload with
  | true => simp [occupant?, vacant, keeps payload vacant]
  | false => simp [occupant?, vacant]

namespace Node

/-- The payload at the end of a path, vacant where the path leads to no node. -/
def payloadAt (node : Node α) (path : List String) : α :=
  ((node.find? path).map Node.payload).getD Vacancy.vacant

@[simp]
theorem payloadAt_nil (node : Node α) : node.payloadAt [] = node.payload := rfl

theorem payloadAt_cons (node : Node α) (level : String) (rest : List String) :
    node.payloadAt (level :: rest) =
      ((node.branches.find? level).map (·.payloadAt rest)).getD Vacancy.vacant := by
  cases found : node.branches.find? level with
  | none => simp [payloadAt, find?, found]
  | some child => simp [payloadAt, find?, found]

theorem payloadAt_cons_of_find? {node child : Node α} {level : String}
    (found : node.branches.find? level = some child) (rest : List String) :
    node.payloadAt (level :: rest) = child.payloadAt rest := by
  simp [payloadAt_cons, found]

theorem payloadAt_cons_of_missing {node : Node α} {level : String}
    (missing : node.branches.find? level = none) (rest : List String) :
    node.payloadAt (level :: rest) = Vacancy.vacant := by
  simp [payloadAt_cons, missing]

theorem payloadAt_of_find?_eq_none {node : Node α} {path : List String}
    (missing : node.find? path = none) : node.payloadAt path = Vacancy.vacant := by
  simp [payloadAt, missing]

@[simp]
theorem payloadAt_idle (path : List String) : (idle : Node α).payloadAt path = Vacancy.vacant := by
  cases path with
  | nil => rfl
  | cons level rest => exact payloadAt_cons_of_missing rfl rest

/-- What is stored at the end of a path, if anything is. -/
def storedAt (node : Node α) (path : List String) : Option α :=
  (node.payload? path).bind occupant?

theorem occupant?_payloadAt (node : Node α) (path : List String) :
    occupant? (node.payloadAt path) = node.storedAt path := by
  change occupant? ((node.payload? path).getD Vacancy.vacant) = _
  unfold storedAt
  cases node.payload? path with
  | none => exact occupant?_vacant
  | some payload => rfl

theorem storedAt_of_isIdle {node : Node α} (idle : node.isIdle = true) (path : List String) :
    node.storedAt path = none := by
  simp only [isIdle, Bool.and_eq_true] at idle
  obtain ⟨vacant, leaf⟩ := idle
  cases path with
  | nil => exact occupant?_of_isVacant vacant
  | cons level rest =>
      have missing : node.branches.find? level = none := by
        cases branches : node.branches with
        | none => rfl
        | branch => simp [branches, Branches.isNone] at leaf
      rw [storedAt, payload?_cons_of_missing missing, Option.bind_none]

theorem payload?_attach (node child : Node α) (level other : String) (rest : List String) :
    (node.attach level child).payload? (other :: rest) =
      if other = level then (if child.isIdle = true then none else child.payload? rest)
      else node.payload? (other :: rest) := by
  by_cases idle : child.isIdle = true
  · by_cases same : other = level
    · simp [attach, idle, same, payload?, find?]
    · simp [attach, idle, same, payload?, find?, Branches.find?_erase_of_ne same]
  · by_cases same : other = level
    · simp [attach, idle, same, payload?, find?]
    · simp [attach, idle, same, payload?, find?, Branches.find?_put_of_ne same]

theorem storedAt_attach (node child : Node α) (level other : String) (rest : List String) :
    (node.attach level child).storedAt (other :: rest) =
      if other = level then child.storedAt rest else node.storedAt (other :: rest) := by
  unfold storedAt
  rw [payload?_attach]
  split
  case isFalse => rfl
  case isTrue =>
      split
      case isTrue idle => exact (storedAt_of_isIdle idle rest).symm
      case isFalse => rfl

theorem payload_attach (node child : Node α) (level : String) :
    (node.attach level child).payload = node.payload := by
  unfold attach
  split <;> rfl

theorem payloadAt_upsert (change : α → α × β) (path other : List String) (node : Node α) :
    (node.upsert change path).1.payloadAt other =
      if other = path then (change (node.payloadAt path)).1 else node.payloadAt other := by
  induction path generalizing node other with
  | nil =>
      cases other with
      | nil => rfl
      | cons level rest => simp [upsert, payloadAt_cons]
  | cons level path ih =>
      have start : ((node.branches.find? level).getD idle).payloadAt path =
          node.payloadAt (level :: path) := by
        cases found : node.branches.find? level <;> simp [payloadAt_cons, found]
      cases other with
      | nil => simp [upsert]
      | cons head rest =>
          by_cases same : head = level
          · subst same
            have below := ih rest ((node.branches.find? head).getD idle)
            rw [start] at below
            simp only [upsert, payloadAt_cons, Branches.find?_put_self, Option.map_some,
              Option.getD_some, below, List.cons.injEq, true_and]
            split
            · rfl
            · cases found : node.branches.find? head <;> simp
          · simp [upsert, payloadAt_cons, Branches.find?_put_of_ne same, same]

theorem upsert_snd (change : α → α × β) (path : List String) (node : Node α) :
    (node.upsert change path).2 = (change (node.payloadAt path)).2 := by
  induction path generalizing node with
  | nil => rfl
  | cons level path ih =>
      have below := ih ((node.branches.find? level).getD idle)
      cases found : node.branches.find? level with
      | none => simpa [upsert, payloadAt_cons, found] using below
      | some child => simpa [upsert, payloadAt_cons, found] using below

theorem storedAt_update (change : α → α × β) (path other : List String) (node : Node α) :
    (node.update change path).1.storedAt other =
      if other = path then (node.payload? path).bind fun payload => occupant? (change payload).1
      else node.storedAt other := by
  induction path generalizing node other with
  | nil =>
      cases other with
      | nil => rfl
      | cons level rest => rfl
  | cons level path ih =>
      cases found : node.branches.find? level with
      | none =>
          have nothing := payload?_cons_of_missing found path
          simp only [update, found]
          split
          case isTrue same => rw [same, storedAt, nothing, Option.bind_none, Option.bind_none]
          case isFalse => rfl
      | some child =>
          cases other with
          | nil => simp [update, found, storedAt, payload?, find?, payload_attach]
          | cons head rest =>
              simp only [update, found, storedAt_attach, ih, List.cons.injEq,
                payload?_cons_of_find? found]
              by_cases same : head = level
              · subst same
                simp [storedAt, payload?_cons_of_find? found]
              · simp [same]

theorem update_snd (change : α → α × β) (path : List String) (node : Node α) :
    (node.update change path).2 =
      if (node.find? path).isSome then some (change (node.payloadAt path)).2 else none := by
  induction path generalizing node with
  | nil => simp [update, find?]
  | cons level path ih =>
      cases found : node.branches.find? level with
      | none => simp [update, found, find?]
      | some child => simp [update, found, find?, ih, payloadAt_cons_of_find? found]

theorem getD_update_snd (change : α → α × Bool) (vacant : (change Vacancy.vacant).2 = false)
    (path : List String) (node : Node α) :
    (node.update change path).2.getD false = (change (node.payloadAt path)).2 := by
  rw [update_snd]
  cases found : node.find? path with
  | none => simp [payloadAt_of_find?_eq_none found, vacant]
  | some child => simp

/-- What is left where no node is, is the payload of a new node. -/
theorem occupant?_change_payloadAt {change : α → α} (keeps : KeepsVacant change) (node : Node α)
    (path : List String) :
    occupant? (change (node.payloadAt path)) =
      (node.payload? path).bind fun payload => occupant? (change payload) := by
  change occupant? (change ((node.payload? path).getD Vacancy.vacant)) = _
  cases node.payload? path with
  | none => exact occupant?_of_isVacant (keeps Vacancy.vacant isVacant_vacant)
  | some payload => rfl

theorem payloadAt_update [UniqueVacancy α] {change : α → α × β}
    (keeps : KeepsVacant fun payload => (change payload).1) (path other : List String)
    (node : Node α) :
    (node.update change path).1.payloadAt other =
      if other = path then (change (node.payloadAt path)).1 else node.payloadAt other := by
  apply occupant?_injective
  rw [occupant?_payloadAt, storedAt_update, apply_ite occupant?, occupant?_payloadAt,
    occupant?_change_payloadAt keeps]

/-- The node that changing every payload makes of a node, whether idle or not. -/
def changeAll (change : α → α × β) (node : Node α) : Node α :=
  ⟨(change node.payload).1, (node.branches.updateAll change []).1⟩

end Node

theorem Branches.find?_updateAll (change : α → α × β) {branches : Branches α}
    (ordered : branches.Ordered) (key : String) :
    (branches.updateAll change []).1.find? key =
      (branches.find? key).bind fun child =>
        if (child.changeAll change).isIdle then Option.none else some (child.changeAll change) := by
  induction branches with
  | none => rfl
  | branch level payload below after _ ih =>
      have behind := ih ordered.2.1
      simp only [updateAll, updateAll_fst change (after.updateAll change []).2]
      by_cases same : key = level
      · subst same
        rw [ordered.find?_after] at behind
        split
        case isTrue idle => simp [find?, behind, Node.changeAll, idle]
        case isFalse kept => simp [find?, Node.changeAll, kept]
      · split
        · simp [find?, same, behind]
        · simp [find?, same, behind]

namespace Node

theorem storedAt_changeAll (change : α → α × β) {node : Node α}
    (ordered : node.branches.Ordered) (path : List String) :
    (node.changeAll change).storedAt path =
      (node.payload? path).bind fun payload => occupant? (change payload).1 := by
  induction path generalizing node with
  | nil => rfl
  | cons level rest ih =>
      have branch := Branches.find?_updateAll change ordered level
      cases found : node.branches.find? level with
      | none =>
          rw [found, Option.bind_none] at branch
          rw [storedAt, payload?_cons_of_missing found, payload?_cons_of_missing branch,
            Option.bind_none, Option.bind_none]
      | some child =>
          have below := ih (ordered.of_find? found)
          rw [found, Option.bind_some] at branch
          rw [payload?_cons_of_find? found, ← below]
          split at branch
          case isTrue idle =>
            rw [storedAt_of_isIdle idle, storedAt, payload?_cons_of_missing branch,
              Option.bind_none]
          case isFalse => rw [storedAt, payload?_cons_of_find? branch, storedAt]

theorem payloadAt_changeAll [UniqueVacancy α] {change : α → α × β}
    (keeps : KeepsVacant fun payload => (change payload).1) {node : Node α}
    (ordered : node.branches.Ordered) (path : List String) :
    (node.changeAll change).payloadAt path = (change (node.payloadAt path)).1 := by
  apply occupant?_injective
  rw [occupant?_payloadAt, storedAt_changeAll change ordered, occupant?_change_payloadAt keeps]

end Node

namespace Node

variable {node : Node α} {path : List String} {payload : α}

/-- The path leads to a payload that is not vacant. -/
def Stores (node : Node α) (path : List String) (payload : α) : Prop :=
  node.payloadAt path = payload ∧ isVacant payload = false

theorem stores_cons {level : String} {rest : List String} :
    node.Stores (level :: rest) payload ↔
      ∃ child, node.branches.find? level = some child ∧ child.Stores rest payload := by
  unfold Stores
  cases found : node.branches.find? level with
  | none =>
      rw [payloadAt_cons_of_missing found]
      constructor
      · rintro ⟨rfl, occupied⟩
        simp at occupied
      · rintro ⟨_, found, _⟩
        cases found
  | some child =>
      rw [payloadAt_cons_of_find? found]
      constructor
      · intro stored
        exact ⟨child, rfl, stored⟩
      · rintro ⟨_, found, stored⟩
        cases found
        exact stored

theorem mem_own : payload ∈ node.own ↔ node.Stores [] payload := by
  unfold own Stores
  split
  case isTrue vacant =>
    constructor
    · intro member
      cases member
    · rintro ⟨rfl, occupied⟩
      simp [vacant] at occupied
  case isFalse occupied =>
    rw [Bool.not_eq_true] at occupied
    constructor
    · intro member
      have same : payload = node.payload := List.mem_singleton.mp member
      exact ⟨same.symm, same ▸ occupied⟩
    · rintro ⟨rfl, _⟩
      exact List.mem_singleton_self _

/-- A node lists its own payload and what its branches list. -/
theorem mem_entries_of_branches
    (listed : ∀ rest, (rest, payload) ∈ node.branches.entries ↔
      rest ≠ [] ∧ node.Stores rest payload) :
    (path, payload) ∈ node.entries ↔ node.Stores path payload := by
  simp only [entries, List.mem_append, List.mem_map, Prod.mk.injEq, listed]
  constructor
  · rintro (⟨_, member, rfl, rfl⟩ | ⟨_, stored⟩)
    · exact mem_own.mp member
    · exact stored
  · intro stored
    cases path with
    | nil => exact Or.inl ⟨payload, mem_own.mpr stored, rfl, rfl⟩
    | cons level rest => exact Or.inr ⟨List.cons_ne_nil level rest, stored⟩

end Node

namespace Branches

variable {path : List String} {payload : α} {branches : Branches α}

theorem entries_branch (level : String) (payload : α) (below after : Branches α) :
    (branch level payload below after).entries =
      (Node.entries ⟨payload, below⟩).map (fun entry => (level :: entry.1, entry.2)) ++
        after.entries := by
  simp [entries, Node.entries, Function.comp_def]

/-- What the payload of the node itself is does not matter for the paths below it. -/
theorem mem_entries (ordered : branches.Ordered) (own : α) :
    (path, payload) ∈ branches.entries ↔
      path ≠ [] ∧ (Node.mk own branches).Stores path payload := by
  induction branches generalizing path own with
  | none =>
      cases path with
      | nil => simp [entries]
      | cons level rest => simp [entries, Node.stores_cons, find?]
  | branch level value below after belowIH afterIH =>
      have inside (rest : List String) :
          (rest, payload) ∈ (Node.mk value below).entries ↔
            (Node.mk value below).Stores rest payload :=
        Node.mem_entries_of_branches fun rest => belowIH ordered.1 value
      simp only [entries_branch, List.mem_append, List.mem_map, Prod.mk.injEq, Prod.exists]
      cases path with
      | nil => simp [afterIH ordered.2.1 own]
      | cons head rest =>
          rw [afterIH ordered.2.1 own]
          simp only [Node.stores_cons, List.cons.injEq, find?]
          by_cases same : head = level
          · subst same
            simp [ordered.find?_after, inside]
          · simp [same, Ne.symm same]

theorem nil_notMem_paths (ordered : branches.Ordered) : [] ∉ branches.entries.map Prod.fst := by
  intro member
  obtain ⟨⟨path, payload⟩, listed, rfl⟩ := List.mem_map.mp member
  exact ((mem_entries ordered payload).mp listed).1 rfl

end Branches

theorem Node.mem_entries {node : Node α} (ordered : node.branches.Ordered) {path : List String}
    {payload : α} : (path, payload) ∈ node.entries ↔ node.Stores path payload :=
  mem_entries_of_branches fun _ => Branches.mem_entries ordered node.payload

theorem Node.nodup_paths_of_branches {node : Node α} (ordered : node.branches.Ordered)
    (nodup : (node.branches.entries.map Prod.fst).Nodup) : (node.entries.map Prod.fst).Nodup := by
  by_cases vacant : isVacant node.payload = true
  · simpa [Node.entries, Node.own, vacant] using nodup
  · have fresh := Branches.nil_notMem_paths ordered
    simp only [Node.entries, Node.own, vacant, Bool.false_eq_true, if_false, List.map_cons,
      List.map_nil, List.cons_append, List.nil_append]
    exact List.nodup_cons.mpr ⟨fresh, nodup⟩

theorem Branches.nodup_paths {branches : Branches α} (ordered : branches.Ordered) :
    (branches.entries.map Prod.fst).Nodup := by
  induction branches with
  | none => exact List.nodup_nil
  | branch level payload below after belowIH afterIH =>
      have inside : ((Node.mk payload below).entries.map Prod.fst).Nodup :=
        Node.nodup_paths_of_branches ordered.1 (belowIH ordered.1)
      have prefixed : (((Node.mk payload below).entries.map Prod.fst).map (level :: ·)).Nodup :=
        inside.map fun _ _ same => (List.cons.inj same).2
      rw [entries_branch, List.map_append, List.map_map]
      rw [List.map_map] at prefixed
      refine List.nodup_append.mpr ⟨prefixed, afterIH ordered.2.1, ?_⟩
      intro first firstMember second secondMember same
      obtain ⟨inner, _, rfl⟩ := List.mem_map.mp firstMember
      obtain ⟨⟨path, value⟩, listed, rfl⟩ := List.mem_map.mp secondMember
      obtain ⟨_, stored⟩ := (mem_entries ordered.2.1 payload).mp listed
      have path_eq : path = level :: inner.1 := same.symm
      rw [path_eq, Node.stores_cons, ordered.find?_after] at stored
      obtain ⟨_, found, _⟩ := stored
      cases found

theorem Node.nodup_paths {node : Node α} (ordered : node.branches.Ordered) :
    (node.entries.map Prod.fst).Nodup :=
  nodup_paths_of_branches ordered (Branches.nodup_paths ordered)

/-- A vacant payload is not listed, and it does not count either. -/
theorem Node.countP_entries (counts : α → Bool)
    (vacant : ∀ payload, isVacant payload = true → counts payload = false) (payload : α)
    (branches : Branches α) :
    ((Node.mk payload branches).entries.countP fun entry => counts entry.2) =
      branches.entries.countP (fun entry => counts entry.2) + if counts payload then 1 else 0 := by
  rw [entries, List.countP_append, List.countP_map, Nat.add_comm, own]
  split
  case isTrue empty =>
    rw [vacant payload empty]
    rfl
  case isFalse =>
    rw [List.countP_singleton]
    rfl

theorem Branches.count_updateAll (change : α → α × Bool)
    (vacant : ∀ payload, isVacant payload = true → (change payload).2 = false)
    (branches : Branches α) :
    (branches.updateAll change []).2.count true =
      branches.entries.countP fun entry => (change entry.2).2 := by
  induction branches with
  | none => rfl
  | branch level payload below after belowIH afterIH =>
      have inside := Node.countP_entries (fun payload => (change payload).2) vacant payload below
      rw [entries_branch, List.countP_append, List.countP_map, ← afterIH]
      simp only [updateAll, updateAll_snd change (after.updateAll change []).2, List.count_cons,
        List.count_append, beq_true, belowIH]
      change _ = ((Node.mk payload below).entries.countP fun entry => (change entry.2).2) + _
      omega

/-- Changing every payload lists as many positive results as the stored payloads give. -/
theorem Trie.count_updateAll (change : α → α × Bool)
    (vacant : ∀ payload, isVacant payload = true → (change payload).2 = false) (trie : Trie α) :
    (trie.updateAll change).2.count true = trie.toList.countP fun entry => (change entry.2).2 := by
  have listed := Node.countP_entries (fun payload => (change payload).2) vacant trie.root.payload
    trie.root.branches
  rw [← Branches.count_updateAll change vacant] at listed
  rw [updateAll, List.count_cons, beq_true]
  exact listed.symm

namespace Trie

variable {trie : Trie α} {path : List String} {payload : α}

theorem stored?_eq (trie : Trie α) (path : List String) :
    trie.stored? path = trie.root.storedAt path := by
  change (trie.root.payload? path).filter (fun payload => !isVacant payload) = _
  unfold Node.storedAt
  cases trie.root.payload? path with
  | none => rfl
  | some payload => cases vacant : isVacant payload <;> simp [occupant?, vacant]

theorem stored?_eq_some_iff :
    trie.stored? path = some payload ↔ trie.root.Stores path payload := by
  rw [stored?_eq, ← Node.occupant?_payloadAt, occupant?_eq_some_iff]
  rfl

theorem stores_iff_get? :
    trie.root.Stores path payload ↔ trie.get? path = some payload ∧ isVacant payload = false := by
  rw [← stored?_eq_some_iff, stored?, Option.filter_eq_some_iff, Bool.not_eq_true']

end Trie

end TopicBroker

import TopicBroker.Proofs.Trie.FiniteMap

/-!
# What an update drops

An update follows a path and drops the idle nodes of the path on its way back.
It does so whether or not the path leads to a node at its end.  So an update can
take something away where it finds nothing to change: a vacant leaf on the
existing part of the path goes, and with it every node above that was there for
this leaf only.  What is stored stays, and a pruned trie stays as it is.
-/

namespace TopicBroker

variable {α β : Type}

theorem Branches.put_of_find? {branches : Branches α} (ordered : branches.Ordered) {key : String}
    {node : Node α} (found : branches.find? key = some node) : branches.put key node = branches := by
  induction branches with
  | none => cases found
  | branch level payload below after _ ih =>
      by_cases same : key = level
      · obtain rfl : ⟨payload, below⟩ = node := by simpa [find?, same] using found
        simp [put, same]
      · have behind : after.find? key = some node := by simpa [find?, same] using found
        have greater : level < key := ordered.2.1.lt_of_find? ordered.2.2 behind
        have notLess : ¬ key < level := fun less =>
          absurd (lt_trans less greater) (lt_irrefl key)
        simp [put, same, notLess, ih ordered.2.1 behind]

namespace Node

/-- The payloads of all nodes after a change at the end of a path, before anything is dropped. -/
def changed (node : Node α) (target : List String) (change : α → α × β) (path : List String) :
    Option α :=
  if path = target then (node.payload? target).map fun payload => (change payload).1
  else node.payload? path

variable {node child : Node α} {level : String} {rest : List String}

theorem changed_cons (found : node.branches.find? level = some child) (change : α → α × β)
    (tail : List String) :
    node.changed (level :: rest) change (level :: tail) = child.changed rest change tail := by
  simp [changed, payload?_cons_of_find? found]

theorem changed_of_missing {target : List String} (missing : node.payload? target = none)
    (change : α → α × β) : node.changed target change = node.payload? := by
  funext path
  unfold changed
  split
  case isTrue same => rw [missing, same, missing, Option.map_none]
  case isFalse => rfl

end Node

variable [Vacancy α]

/-- Beyond the path there are only vacant nodes, and all of them stand on the way to the target. -/
def Spent (reads : List String → Option α) (target path : List String) : Prop :=
  ∀ beyond payload, path <+: beyond → reads beyond = some payload →
    isVacant payload = true ∧ beyond <+: target

section Spent

variable {reads : List String → Option α} {target path : List String} {payload : α}

theorem Spent.mono {further : List String} (spent : Spent reads target path)
    (begins : path <+: further) : Spent reads target further :=
  fun beyond payload longer found => spent beyond payload (begins.trans longer) found

/-- A node that does not stand on the way to the target stays. -/
theorem stays_iff (aside : reads path = some payload → path <+: target → path = []) :
    (reads path = some payload ∧ ¬ (path ≠ [] ∧ Spent reads target path)) ↔
      reads path = some payload := by
  refine and_iff_left_of_imp fun found => ?_
  rintro ⟨nonempty, spent⟩
  exact nonempty (aside found (spent path payload List.prefix_rfl found).2)

end Spent

namespace Node

/-- The nodes are those that the readings tell, without those that are spent on the way to the
target. -/
def LeftOf (left : Node α) (reads : List String → Option α) (target : List String) : Prop :=
  ∀ path payload, left.payload? path = some payload ↔
    reads path = some payload ∧ ¬ (path ≠ [] ∧ Spent reads target path)

variable {node child left : Node α} {level : String} {rest : List String}

theorem isIdle_iff : node.isIdle = true ↔
    ∀ path payload, node.payload? path = some payload → path = [] ∧ isVacant payload = true := by
  rw [isIdle, Bool.and_eq_true]
  constructor
  · rintro ⟨vacant, leaf⟩ path payload found
    cases path with
    | nil =>
        cases found
        exact ⟨rfl, vacant⟩
    | cons head rest =>
        cases branches : node.branches with
        | none => simp [payload?, find?, branches, Branches.find?] at found
        | branch => simp [branches, Branches.isNone] at leaf
  · intro only
    refine ⟨(only [] node.payload rfl).2, ?_⟩
    cases branches : node.branches with
    | none => rfl
    | branch head payload below after =>
        have found : node.payload? [head] = some payload := by
          simp [payload?, find?, branches, Branches.find?]
        cases (only [head] payload found).1

/-- Nothing but an idle node is left if everything is spent. -/
theorem LeftOf.isIdle_iff {reads : List String → Option α} {target : List String}
    (law : left.LeftOf reads target) : left.isIdle = true ↔ Spent reads target [] := by
  rw [Node.isIdle_iff]
  constructor
  · intro only beyond payload _ found
    by_cases kept : left.payload? beyond = some payload
    · obtain ⟨rfl, vacant⟩ := only beyond payload kept
      exact ⟨vacant, List.nil_prefix⟩
    · have dropped : beyond ≠ [] ∧ Spent reads target beyond := by
        by_contra stays
        exact kept ((law beyond payload).mpr ⟨found, stays⟩)
      exact dropped.2 beyond payload List.prefix_rfl found
  · intro spent path payload kept
    obtain ⟨found, stays⟩ := (law path payload).mp kept
    have vacant := (spent path payload List.nil_prefix found).1
    by_cases root : path = []
    · exact ⟨root, vacant⟩
    · exact absurd ⟨root, spent.mono List.nil_prefix⟩ stays

theorem spent_cons_iff (found : node.branches.find? level = some child) (change : α → α × β)
    (tail : List String) :
    Spent (node.changed (level :: rest) change) (level :: rest) (level :: tail) ↔
      Spent (child.changed rest change) rest tail := by
  constructor
  · intro spent beyond payload longer read
    have above := spent (level :: beyond) payload (List.cons_prefix_cons.mpr ⟨rfl, longer⟩)
      (by rwa [changed_cons found])
    exact ⟨above.1, (List.cons_prefix_cons.mp above.2).2⟩
  · rintro spent beyond payload ⟨more, rfl⟩ read
    rw [List.cons_append, changed_cons found] at read
    obtain ⟨vacant, begins⟩ := spent (tail ++ more) payload (List.prefix_append tail more) read
    exact ⟨vacant, List.cons_prefix_cons.mpr ⟨rfl, begins⟩⟩

/-- One step back on the way: a child that is left idle is dropped, and it is spent then. -/
theorem LeftOf.attach (found : node.branches.find? level = some child) {change : α → α × β}
    (law : left.LeftOf (child.changed rest change) rest) :
    (node.attach level left).LeftOf (node.changed (level :: rest) change) (level :: rest) := by
  intro path payload
  cases path with
  | nil => simp [payload?, find?, payload_attach, changed]
  | cons head tail =>
      rw [payload?_attach]
      by_cases same : head = level
      · subst same
        rw [if_pos rfl, changed_cons found, spent_cons_iff found]
        split
        case isTrue idle =>
            have spent : Spent (child.changed rest change) rest tail :=
              (law.isIdle_iff.mp idle).mono List.nil_prefix
            simp [spent]
        case isFalse busy =>
            rw [law tail payload]
            cases tail with
            | nil => simp [mt law.isIdle_iff.mpr busy]
            | cons => simp
      · have aside : (head :: tail) <+: level :: rest → head :: tail = [] := fun begins =>
          absurd (List.cons_prefix_cons.mp begins).1 same
        rw [if_neg same, stays_iff fun _ => aside]
        simp [changed, same]

/-- An update changes the payload at the end of the path and drops what is spent then. -/
theorem leftOf_update (change : α → α × β) (target : List String) (node : Node α) :
    (node.update change target).1.LeftOf (node.changed target change) target := by
  induction target generalizing node with
  | nil =>
      intro path payload
      have kept : (node.update change []).1.payload? path = node.changed [] change path := by
        cases path <;> rfl
      rw [kept, stays_iff fun _ => List.prefix_nil.mp]
  | cons level rest ih =>
      cases found : node.branches.find? level with
      | none =>
          intro path payload
          have same : (node.update change (level :: rest)).1 = node := by simp [update, found]
          have aside (read : node.payload? path = some payload) (begins : path <+: level :: rest) :
              path = [] := by
            cases path with
            | nil => rfl
            | cons head tail =>
                obtain ⟨rfl, _⟩ := List.cons_prefix_cons.mp begins
                rw [payload?_cons_of_missing found] at read
                cases read
          rw [same, changed_of_missing (payload?_cons_of_missing found rest), stays_iff aside]
      | some child =>
          have step : (node.update change (level :: rest)).1 =
              node.attach level (child.update change rest).1 := by simp [update, found]
          rw [step]
          exact (ih child).attach found

theorem update_eq_self {target : List String} (ordered : node.branches.Ordered)
    (missing : node.find? target = none)
    (busy : ∀ path child, path ≠ [] → path <+: target → node.find? path = some child →
      child.isIdle = false) (change : α → α × β) : (node.update change target).1 = node := by
  induction target generalizing node with
  | nil => cases missing
  | cons level rest ih =>
      cases found : node.branches.find? level with
      | none => simp [update, found]
      | some child =>
          have below : child.find? rest = none := by simpa [find?, found] using missing
          have childBusy : child.isIdle = false :=
            busy [level] child (List.cons_ne_nil _ _) (by simp) (by simp [find?, found])
          have kept : (child.update change rest).1 = child := by
            refine ih (ordered.of_find? found) below fun path other _ begins reached => ?_
            refine busy (level :: path) other (List.cons_ne_nil _ _) ?_ ?_
            · exact List.cons_prefix_cons.mpr ⟨rfl, begins⟩
            · simpa [find?, found] using reached
          simp [update, found, kept, attach, childBusy, Branches.put_of_find? ordered found]

end Node

namespace Trie

/-- An idle node stands on the way to the path, below the root. -/
def IdleOn (trie : Trie α) (target : List String) : Prop :=
  ∃ path node, path ≠ [] ∧ path <+: target ∧ trie.root.find? path = some node ∧ node.isIdle = true

/-- What an update leaves of a trie where its path leads to no node. -/
structure LeftByMiss (trie left : Trie α) (target : List String) : Prop where
  /-- Nothing is left to the change, not even a call. -/
  update_eq : ∀ {β : Type} (change : α → α × β), trie.update target change = (left, none)
  stored : ∀ path, left.stored? path = trie.stored? path
  nodes : ∀ path payload, left.get? path = some payload ↔
    trie.get? path = some payload ∧ ¬ (path ≠ [] ∧ Spent trie.get? target path)
  untouched_iff : left = trie ↔ ¬ trie.IdleOn target
  nodeCount_iff : left.nodeCount = trie.nodeCount ↔ ¬ trie.IdleOn target
  untouched_of_pruned : trie.Pruned → left = trie

variable {trie left : Trie α} {target : List String}

theorem not_idleOn_of_pruned (pruned : trie.Pruned) (target : List String) :
    ¬ trie.IdleOn target := by
  rintro ⟨path, node, nonempty, _, found, idle⟩
  have busy := (Node.pruned_of_find? pruned found).1 nonempty
  rw [idle] at busy
  cases busy

theorem spent_of_isIdle {path : List String} {node : Node α}
    (found : trie.root.find? path = some node) (idle : node.isIdle = true)
    (begins : path <+: target) : Spent trie.get? target path := by
  rintro _ payload ⟨more, rfl⟩ read
  have below : node.payload? more = some payload := by
    simpa [get?, Node.payload?, Node.find?_append, found] using read
  obtain ⟨rfl, vacant⟩ := Node.isIdle_iff.mp idle more payload below
  exact ⟨vacant, by simpa using begins⟩

/-- If all nodes are still there, none was idle on the way. -/
theorem not_idleOn_of_kept
    (nodes : ∀ path payload, left.get? path = some payload ↔
      trie.get? path = some payload ∧ ¬ (path ≠ [] ∧ Spent trie.get? target path))
    (kept : ∀ path payload, trie.get? path = some payload → left.get? path = some payload) :
    ¬ trie.IdleOn target := by
  rintro ⟨path, node, nonempty, begins, found, idle⟩
  have read : trie.get? path = some node.payload := by simp [get?, found]
  have stays := ((nodes path node.payload).mp (kept path node.payload read)).2
  exact stays ⟨nonempty, spent_of_isIdle found idle begins⟩

section Missing

variable (missing : trie.get? target = none)
include missing

theorem get?_update_of_missing (change : α → α × β) (path : List String) (payload : α) :
    (trie.update target change).1.get? path = some payload ↔
      trie.get? path = some payload ∧ ¬ (path ≠ [] ∧ Spent trie.get? target path) := by
  have law := Node.leftOf_update change target trie.root
  rw [Node.changed_of_missing missing] at law
  exact law path payload

/-- What is left does not depend on the change, which is not asked for anything. -/
theorem update_of_missing_congr {γ : Type} (change : α → α × β) (other : α → α × γ) :
    trie.update target change = ((trie.update target other).1, none) := by
  have answer := trie.update_snd target change
  rw [missing, Option.map_none] at answer
  refine Prod.ext (ext_get? fun path => Option.ext fun payload => ?_) answer
  exact (get?_update_of_missing missing change path payload).trans
    (get?_update_of_missing missing other path payload).symm

theorem stored?_update_of_missing (change : α → α × β) (path : List String) :
    (trie.update target change).1.stored? path = trie.stored? path := by
  rw [stored?_update, missing]
  split
  case isTrue here => simp [here, stored?, missing]
  case isFalse => rfl

theorem update_of_missing_eq_self (change : α → α × β) (busy : ¬ trie.IdleOn target) :
    (trie.update target change).1 = trie := by
  have noNode : trie.root.find? target = none := by simpa [get?] using missing
  refine ext (Node.update_eq_self trie.ordered noNode ?_ change)
  intro path node nonempty begins found
  by_contra idle
  exact busy ⟨path, node, nonempty, begins, found, by simpa using idle⟩

end Missing

/-- An update of a path that leads to no node answers with nothing and keeps what is stored.  It
leaves the trie as it is unless a vacant leaf stands on the way, which is dropped. -/
theorem update_of_missing (trie : Trie α) {target : List String}
    (missing : trie.get? target = none) : ∃ left, trie.LeftByMiss left target := by
  let keep (payload : α) : α × Unit := (payload, ())
  have nodes := get?_update_of_missing missing keep
  have untouched := update_of_missing_eq_self missing keep
  refine ⟨(trie.update target keep).1, ?_⟩
  constructor
  case update_eq => exact fun change => update_of_missing_congr missing change keep
  case stored => exact stored?_update_of_missing missing keep
  case nodes => exact nodes
  case untouched_iff =>
      refine ⟨fun same => ?_, untouched⟩
      exact not_idleOn_of_kept nodes fun path payload found => by rwa [same]
  case nodeCount_iff =>
      refine ⟨fun same => ?_, fun busy => by rw [untouched busy]⟩
      have fewer (path : List String) (payload : α)
          (found : (trie.update target keep).1.get? path = some payload) :
          trie.get? path = some payload := ((nodes path payload).mp found).1
      exact not_idleOn_of_kept nodes fun path payload => get?_of_nodeCount_eq fewer same
  case untouched_of_pruned =>
      exact fun pruned => untouched (not_idleOn_of_pruned pruned target)

/-- A chain of two vacant nodes goes, while a node that leads to something stays. -/
theorem update_of_missing_behind_vacant_chain :
    let trie : Trie (Option ℕ) := after [.put ["a", "b"] none, .put ["c", "d"] (some 1)]
    (trie.get? ["a", "b", "x"] = none ∧ ∃ left, trie.LeftByMiss left ["a", "b", "x"] ∧
      trie.nodeCount = 5 ∧ left.nodeCount = 3 ∧ left.get? ["a"] = none) ∧
    (trie.get? ["c", "x"] = none ∧ ∃ left, trie.LeftByMiss left ["c", "x"] ∧ left = trie) := by
  intro trie
  have missing : trie.get? ["a", "b", "x"] = none := by decide +kernel
  have otherMissing : trie.get? ["c", "x"] = none := by decide +kernel
  obtain ⟨left, law⟩ := update_of_missing trie missing
  obtain ⟨same, otherLaw⟩ := update_of_missing trie otherMissing
  have left_eq : (trie.update ["a", "b", "x"] fun slot => (slot, ())).1 = left :=
    congrArg Prod.fst (law.update_eq _)
  have same_eq : (trie.update ["c", "x"] fun slot => (slot, ())).1 = same :=
    congrArg Prod.fst (otherLaw.update_eq _)
  refine ⟨⟨missing, left, law, by decide +kernel, ?_, ?_⟩, otherMissing, same, otherLaw, ?_⟩
  · rw [← left_eq]
    decide +kernel
  · rw [← left_eq]
    decide +kernel
  · rw [← same_eq]
    apply ext
    decide +kernel

/-- So an update of a missing path does not leave every trie as it is. -/
theorem vacant_leaf_dropped_on_missing_path :
    let trie : Trie (Option ℕ) := after [.put ["a"] none]
    let left : Trie (Option ℕ) := (trie.update ["a", "b"] fun slot => (none, slot)).1
    trie.get? ["a", "b"] = none ∧ trie.nodeCount = 2 ∧ trie.get? ["a"] = some none ∧
      left.nodeCount = 1 ∧ left.get? ["a"] = none := by
  decide +kernel

end Trie

end TopicBroker

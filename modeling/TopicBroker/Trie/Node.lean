/-!
# Nodes of a trie over level lists

A node carries a payload and has branches below it, one for each level that
continues a stored path.  The branches stand in increasing order of level, so
two nodes with the same contents are equal as values; `Branches.Ordered` says
so for the whole tree below.

A payload may be vacant, which stands for nothing being stored, and the payload
of a new node is.  A node that is vacant and has no branches carries no
information, and the operations that visit such a node on their way drop it.
-/

namespace TopicBroker

/-- A payload type with values that stand for nothing being stored.  One of them is the payload of
a node that has just been created. -/
class Vacancy (α : Type) where
  vacant : α
  isVacant : α → Bool
  isVacant_vacant : isVacant vacant = true

instance {α : Type} : Vacancy (Option α) where
  vacant := none
  isVacant := Option.isNone
  isVacant_vacant := rfl

export Vacancy (isVacant isVacant_vacant)

attribute [simp] isVacant_vacant

/-- The branches below a node: the level and payload of the first branch, what is below it, and
the branches after it. -/
inductive Branches (α : Type) where
  | none
  | branch (level : String) (payload : α) (below : Branches α) (after : Branches α)
  deriving DecidableEq, Repr

/-- A payload together with the branches below it. -/
structure Node (α : Type) where
  payload : α
  branches : Branches α
  deriving DecidableEq, Repr

namespace Branches

variable {α β : Type}

/-- Every branch has a level above the bound; for ordered branches the first one decides. -/
def StartAbove (bound : String) : Branches α → Prop
  | .none => True
  | .branch level _ _ _ => bound < level

/-- At every node of the tree the branches stand in increasing order of level. -/
def Ordered : Branches α → Prop
  | .none => True
  | .branch level _ below after => below.Ordered ∧ after.Ordered ∧ after.StartAbove level

def isNone : Branches α → Bool
  | .none => true
  | .branch .. => false

/-- The node at the end of the branch with the given level. -/
def find? (key : String) : Branches α → Option (Node α)
  | .none => Option.none
  | .branch level payload below after =>
    if key = level then some ⟨payload, below⟩ else after.find? key

/-- Let the branch with the given level lead to the given node. -/
def put (key : String) (node : Node α) : Branches α → Branches α
  | .none => .branch key node.payload node.branches .none
  | .branch level payload below after =>
    if key = level then .branch key node.payload node.branches after
    else if key < level then
      .branch key node.payload node.branches (.branch level payload below after)
    else .branch level payload below (after.put key node)

/-- Remove the branch with the given level. -/
def erase (key : String) : Branches α → Branches α
  | .none => .none
  | .branch level payload below after =>
    if key = level then after.erase key
    else .branch level payload below (after.erase key)

/-- The branches as a list of levels and nodes. -/
def toList : Branches α → List (String × Node α)
  | .none => []
  | .branch level payload below after => (level, ⟨payload, below⟩) :: after.toList

/-- How many nodes there are below. -/
def count : Branches α → Nat
  | .none => 0
  | .branch _ _ below after => 1 + below.count + after.count

@[simp]
theorem find?_put_self (key : String) (node : Node α) (branches : Branches α) :
    (branches.put key node).find? key = some node := by
  cases node
  induction branches with
  | none => simp [put, find?]
  | branch level payload below after _ ih => grind [put, find?]

theorem find?_put_of_ne {key other : String} (different : other ≠ key) (node : Node α)
    (branches : Branches α) : (branches.put key node).find? other = branches.find? other := by
  induction branches with
  | none => simp [put, find?, different]
  | branch level payload below after _ ih => grind [put, find?]

@[simp]
theorem find?_erase_self (key : String) (branches : Branches α) :
    (branches.erase key).find? key = Option.none := by
  induction branches with
  | none => rfl
  | branch level payload below after _ ih => grind [erase, find?]

theorem find?_erase_of_ne {key other : String} (different : other ≠ key)
    (branches : Branches α) : (branches.erase key).find? other = branches.find? other := by
  induction branches with
  | none => rfl
  | branch level payload below after _ ih => grind [erase, find?]

theorem StartAbove.trans {lower upper : String} {branches : Branches α}
    (above : branches.StartAbove upper) (less : lower < upper) : branches.StartAbove lower := by
  cases branches with
  | none => trivial
  | branch level payload below after => exact String.lt_trans less above

theorem StartAbove.put {bound key : String} {branches : Branches α}
    (above : branches.StartAbove bound) (less : bound < key) (node : Node α) :
    (branches.put key node).StartAbove bound := by
  cases branches with
  | none => exact less
  | branch level payload below after => grind [StartAbove, Branches.put]

theorem StartAbove.erase {bound : String} {branches : Branches α} (ordered : branches.Ordered)
    (above : branches.StartAbove bound) (key : String) :
    (branches.erase key).StartAbove bound := by
  induction branches with
  | none => trivial
  | branch level payload below after _ ih =>
    by_cases same : key = level
    · simp only [Branches.erase, same, if_true]
      exact same ▸ ih ordered.2.1 (ordered.2.2.trans above)
    · simpa [Branches.erase, same, StartAbove] using above

theorem Ordered.of_find? {key : String} {node : Node α} {branches : Branches α}
    (ordered : branches.Ordered) (found : branches.find? key = some node) :
    node.branches.Ordered := by
  induction branches with
  | none => cases found
  | branch level payload below after _ ih =>
    by_cases same : key = level
    · simp only [find?, same, if_true, Option.some.injEq] at found
      exact found ▸ ordered.1
    · exact ih ordered.2.1 (by simpa [find?, same] using found)

theorem Ordered.put {node : Node α} {branches : Branches α} (ordered : branches.Ordered)
    (nodeOrdered : node.branches.Ordered) (key : String) : (branches.put key node).Ordered := by
  induction branches with
  | none => exact ⟨nodeOrdered, trivial, trivial⟩
  | branch level payload below after _ ih =>
    by_cases same : key = level
    · simpa [Branches.put, same] using ⟨nodeOrdered, ordered.2.1, ordered.2.2⟩
    · by_cases less : key < level
      · simpa [Branches.put, same, less] using ⟨nodeOrdered, ordered, less⟩
      · simp only [Branches.put, same, less, if_false]
        exact ⟨ordered.1, ih ordered.2.1, ordered.2.2.put (by grind) node⟩

theorem Ordered.erase {branches : Branches α} (ordered : branches.Ordered) (key : String) :
    (branches.erase key).Ordered := by
  induction branches with
  | none => trivial
  | branch level payload below after _ ih =>
    by_cases same : key = level
    · simp only [Branches.erase, same, if_true]
      exact same ▸ ih ordered.2.1
    · simp only [Branches.erase, same, if_false]
      exact ⟨ordered.1, ih ordered.2.1, ordered.2.2.erase ordered.2.1 key⟩

end Branches

namespace Node

variable {α β : Type}

/-- A node that stores nothing and leads nowhere. -/
def idle [Vacancy α] : Node α := ⟨Vacancy.vacant, .none⟩

/-- Whether a node stores nothing and leads nowhere. -/
def isIdle [Vacancy α] (node : Node α) : Bool :=
  isVacant node.payload && node.branches.isNone

/-- The node at the end of a path. -/
def find? : (path : List String) → Node α → Option (Node α)
  | [], node => some node
  | level :: rest, node => (node.branches.find? level).bind (find? rest)

/-- Let the branch with the given level lead to the node, or remove the branch if the node is
idle. -/
def attach [Vacancy α] (node : Node α) (level : String) (child : Node α) : Node α :=
  if child.isIdle then ⟨node.payload, node.branches.erase level⟩
  else ⟨node.payload, node.branches.put level child⟩

/-- Change the payload at the end of a path and give the result of the change.  Nodes that are
missing on the path are created, and stay even if the change leaves them vacant. -/
def upsert [Vacancy α] (change : α → α × β) : (path : List String) → Node α → Node α × β
  | [], node =>
    let (payload, result) := change node.payload
    (⟨payload, node.branches⟩, result)
  | level :: rest, node =>
    let (child, result) := upsert change rest ((node.branches.find? level).getD idle)
    (⟨node.payload, node.branches.put level child⟩, result)

/-- Change the payload at the end of a path, if there is a node, and give the result of the change.
Every idle node on the existing part of the path is dropped, whether or not the path ends at a
node; the node that the path starts from is kept. -/
def update [Vacancy α] (change : α → α × β) : (path : List String) → Node α → Node α × Option β
  | [], node =>
    let (payload, result) := change node.payload
    (⟨payload, node.branches⟩, some result)
  | level :: rest, node =>
    match node.branches.find? level with
    | none => (node, none)
    | some child =>
      let (child, result) := update change rest child
      (node.attach level child, result)

end Node

namespace Branches

variable {α β : Type}

/-- Change the payload of every node, drop the nodes that are idle afterwards, and put the results
of the changes in front of the given results. -/
def updateAll [Vacancy α] (change : α → α × β) (results : List β) :
    Branches α → Branches α × List β
  | .none => (.none, results)
  | .branch level payload below after =>
    let (after, results) := after.updateAll change results
    let (below, results) := below.updateAll change results
    let (payload, result) := change payload
    let kept := if Node.isIdle ⟨payload, below⟩ then after else .branch level payload below after
    (kept, result :: results)

/-- What becomes of the branches does not depend on the given results. -/
theorem updateAll_fst [Vacancy α] (change : α → α × β) (results : List β)
    (branches : Branches α) :
    (branches.updateAll change results).1 = (branches.updateAll change []).1 := by
  induction branches generalizing results with
  | none => rfl
  | branch level payload below after belowIH afterIH =>
    simp only [updateAll]
    rw [belowIH, afterIH, belowIH (after.updateAll change []).2]

/-- The results of the changes stand in front of the given results. -/
theorem updateAll_snd [Vacancy α] (change : α → α × β) (results : List β)
    (branches : Branches α) :
    (branches.updateAll change results).2 = (branches.updateAll change []).2 ++ results := by
  induction branches generalizing results with
  | none => rfl
  | branch level payload below after belowIH afterIH =>
    simp only [updateAll]
    rw [belowIH, afterIH, belowIH (after.updateAll change []).2]
    simp

theorem StartAbove.updateAll [Vacancy α] {bound : String} {branches : Branches α}
    (ordered : branches.Ordered) (above : branches.StartAbove bound) (change : α → α × β)
    (results : List β) : (branches.updateAll change results).1.StartAbove bound := by
  induction branches generalizing results with
  | none => trivial
  | branch level payload below after _ ih =>
    simp only [Branches.updateAll]
    split
    · exact ih ordered.2.1 (ordered.2.2.trans above) results
    · exact above

theorem Ordered.updateAll [Vacancy α] {branches : Branches α} (ordered : branches.Ordered)
    (change : α → α × β) (results : List β) :
    (branches.updateAll change results).1.Ordered := by
  induction branches generalizing results with
  | none => trivial
  | branch level payload below after belowIH afterIH =>
    simp only [Branches.updateAll]
    split
    · exact afterIH ordered.2.1 results
    · exact ⟨belowIH ordered.1 _, afterIH ordered.2.1 results,
        ordered.2.2.updateAll ordered.2.1 change results⟩

end Branches

namespace Node

variable {α β : Type}

theorem ordered_attach [Vacancy α] {node child : Node α} (ordered : node.branches.Ordered)
    (childOrdered : child.branches.Ordered) (level : String) :
    (node.attach level child).branches.Ordered := by
  unfold attach
  split
  · exact ordered.erase level
  · exact ordered.put childOrdered level

theorem ordered_upsert [Vacancy α] (change : α → α × β) (path : List String) {node : Node α}
    (ordered : node.branches.Ordered) : (node.upsert change path).1.branches.Ordered := by
  induction path generalizing node with
  | nil => exact ordered
  | cons level rest ih =>
    refine ordered.put (ih ?_) level
    cases found : node.branches.find? level with
    | none => trivial
    | some child => exact ordered.of_find? found

theorem ordered_update [Vacancy α] (change : α → α × β) (path : List String) {node : Node α}
    (ordered : node.branches.Ordered) : (node.update change path).1.branches.Ordered := by
  induction path generalizing node with
  | nil => exact ordered
  | cons level rest ih =>
    unfold update
    split
    · exact ordered
    · rename_i child found
      exact ordered_attach ordered (ih (ordered.of_find? found)) level

end Node

end TopicBroker

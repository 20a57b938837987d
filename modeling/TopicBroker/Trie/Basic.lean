import TopicBroker.Trie.Node

/-!
# Tries over level lists

A trie assigns payloads to level lists.  It is a root node whose branches are
ordered at every depth, so tries with the same nodes and payloads are equal.

There are two ways to write to one path: `Trie.upsert` creates what is missing,
and `Trie.update` changes only what is there and drops idle nodes on the way.
`Trie.updateAll` changes every payload and drops every idle node.
The root itself is never dropped.
-/

namespace TopicBroker

/-- A finite assignment of payloads to level lists, as a tree with one level on each branch. -/
structure Trie (α : Type) where
  root : Node α
  ordered : root.branches.Ordered

namespace Trie

variable {α β : Type}

@[ext]
theorem ext {first second : Trie α} (sameRoot : first.root = second.root) : first = second := by
  cases first
  cases second
  cases sameRoot
  rfl

variable [Vacancy α]

/-- The trie in which only the root exists, and is vacant. -/
def empty : Trie α := ⟨Node.idle, trivial⟩

instance : Inhabited (Trie α) := ⟨empty⟩

/-- Whether nothing is stored and no branch exists. -/
def isEmpty (trie : Trie α) : Bool := trie.root.isIdle

omit [Vacancy α] in
/-- How many nodes the trie has, the root included. -/
def nodeCount (trie : Trie α) : Nat := 1 + trie.root.branches.count

omit [Vacancy α] in
/-- The payload of the node at the end of a path, vacant or not. -/
def get? (trie : Trie α) (path : List String) : Option α :=
  (trie.root.find? path).map Node.payload

/-- The payload stored at a path; a vacant node stores none. -/
def stored? (trie : Trie α) (path : List String) : Option α :=
  (trie.get? path).filter fun payload => !isVacant payload

/-- Change the payload at a path, creating the nodes that are missing. -/
def upsert (trie : Trie α) (path : List String) (change : α → α × β) : Trie α × β :=
  let changed := trie.root.upsert change path
  (⟨changed.1, Node.ordered_upsert change path trie.ordered⟩, changed.2)

/-- Change the payload at a path if there is a node, and drop the idle nodes on the existing part
of the path. -/
def update (trie : Trie α) (path : List String) (change : α → α × β) : Trie α × Option β :=
  let changed := trie.root.update change path
  (⟨changed.1, Node.ordered_update change path trie.ordered⟩, changed.2)

/-- Change every payload, the one of the root first, drop every idle node, and list the results. -/
def updateAll (trie : Trie α) (change : α → α × β) : Trie α × List β :=
  let changed := trie.root.branches.updateAll change []
  let root := change trie.root.payload
  (⟨⟨root.1, changed.1⟩, trie.ordered.updateAll change []⟩, root.2 :: changed.2)

end Trie

end TopicBroker

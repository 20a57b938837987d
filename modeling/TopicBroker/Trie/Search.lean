import TopicBroker.Topic.Levels
import TopicBroker.Trie.Basic

/-!
# Searching a trie

There are two directions.  `Trie.matching` takes the levels of a topic and finds
the payloads stored at the filters that match it: the wildcards are levels of
the stored paths.  `Trie.select` takes the levels of a filter and finds the
stored paths that it matches: the wildcards come from the caller.

`Trie.toList` lists everything that is stored, in increasing order of path.
-/

namespace TopicBroker

variable {α : Type} [Vacancy α]

/-- The payload of a node as a list, which is empty if the node is vacant. -/
def Node.own (node : Node α) : List α :=
  if isVacant node.payload then [] else [node.payload]

/-- The paths below that store something, each with its payload. -/
def Branches.entries : Branches α → List (List String × α)
  | .none => []
  | .branch level payload below after =>
    (Node.own ⟨payload, below⟩).map (([level], ·)) ++
      below.entries.map (fun entry => (level :: entry.1, entry.2)) ++ after.entries

/-- The paths from a node that store something, each with its payload. -/
def Node.entries (node : Node α) : List (List String × α) :=
  node.own.map (([], ·)) ++ node.branches.entries

/-- The payloads stored at the filters below a node that match the topic levels: first the filter
that ends in a `#` here, then the filter that ends here together with the topic, then the filters
that continue with a `+`, and last those that continue with the level of the topic. -/
def Node.matching : (topic : List String) → Node α → List α
  | topic, node =>
    let anyRest := ((node.branches.find? LevelPattern.multiText).map Node.own).getD []
    let here := match topic with
      | [] => node.own
      | level :: rest =>
        let single :=
          if level = "" then []
          else ((node.branches.find? LevelPattern.singleText).map (matching rest)).getD []
        single ++ ((node.branches.find? level).map (matching rest)).getD []
    anyRest ++ here

/-- The paths below a node that the filter levels match, each with its payload. -/
def Node.select : (filter : List String) → Node α → List (List String × α)
  | [], node => node.own.map (([], ·))
  | level :: rest, node =>
    let along := fun (key : String) (child : Node α) =>
      (select rest child).map fun entry => (key :: entry.1, entry.2)
    match LevelPattern.ofLevel level with
    | .multi => node.entries
    | .single => node.branches.toList.flatMap fun (key, child) =>
        if key = "" then [] else along key child
    | .literal text => ((node.branches.find? text).map (along text)).getD []

namespace Trie

/-- Everything that is stored, in increasing order of path. -/
def toList (trie : Trie α) : List (List String × α) := trie.root.entries

/-- The payloads stored at the filters that match the topic levels. -/
def matching (trie : Trie α) (topic : List String) : List α := trie.root.matching topic

/-- What is stored at the paths that the filter levels match. -/
def select (trie : Trie α) (filter : List String) : List (List String × α) :=
  trie.root.select filter

end Trie

end TopicBroker

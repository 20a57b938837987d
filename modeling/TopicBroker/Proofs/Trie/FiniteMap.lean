import Mathlib.Data.List.Induction
import Mathlib.Logic.Function.Basic
import TopicBroker.Proofs.Trie.Sweep

/-!
# A trie as a finite map

What a trie stores is a map from level lists to payloads.  Each way of writing
changes the map at the paths that it is told and nowhere else, although it also
creates nodes on its way, which stay vacant, and drops others that are idle.
The listing of the trie is the map as a set of entries.

Whether a node exists shows in one place only: a change that turns a vacant
payload into something else takes effect at a vacant node, and not where no
node is.  Edits that never do this act on the map alone, so that the map after
any number of them can be told without the trie.
-/

namespace TopicBroker

variable {α : Type}

/-- One way of writing to a trie, with the answers left out. -/
inductive Edit (α : Type) where
  /-- Put a payload, which may be vacant, at a path that is created where it is missing. -/
  | put (path : List String) (payload : α)
  | update (path : List String) (change : α → α)
  | updateAll (change : α → α)

namespace Edit

/-- What an edit makes of a map in which vacant payloads stand for nothing. -/
def onMap : Edit α → (List String → α) → List String → α
  | put path payload, map => Function.update map path payload
  | update path change, map => Function.update map path (change (map path))
  | updateAll change, map => change ∘ map

variable [Vacancy α]

/-- The edit leaves vacant payloads vacant, unless it is told to put something. -/
def KeepsVacant : Edit α → Prop
  | put _ _ => True
  | update _ change => TopicBroker.KeepsVacant change
  | updateAll change => TopicBroker.KeepsVacant change

/-- The map after a history of edits, the first edit first. -/
def mapAfter (history : List (Edit α)) : List String → α :=
  history.foldl (fun map edit => edit.onMap map) fun _ => Vacancy.vacant

theorem mapAfter_append_singleton (earlier : List (Edit α)) (edit : Edit α) :
    mapAfter (earlier ++ [edit]) = edit.onMap (mapAfter earlier) := by
  rw [mapAfter, List.foldl_append]
  rfl

end Edit

namespace Trie

variable [Vacancy α]

def edit (trie : Trie α) : Edit α → Trie α
  | .put path payload => (trie.upsert path fun _ => (payload, ())).1
  | .update path change => (trie.update path fun payload => (change payload, ())).1
  | .updateAll change => (trie.updateAll fun payload => (change payload, ())).1

/-- The trie after a history of edits, the first edit first. -/
def after (history : List (Edit α)) : Trie α :=
  history.foldl edit empty

theorem after_append_singleton (earlier : List (Edit α)) (change : Edit α) :
    after (earlier ++ [change]) = (after earlier).edit change := by
  rw [after, List.foldl_append]
  rfl

/-- What is stored in the trie is a map, and each way of writing changes it as it should. -/
structure ActsAsMap (trie : Trie α) : Prop where
  upserted : ∀ {β : Type} (path : List String) (change : α → α × β),
    (trie.upsert path change).2 = (change ((trie.get? path).getD Vacancy.vacant)).2 ∧
    ∀ other, (trie.upsert path change).1.stored? other =
      if other = path then occupant? (change ((trie.get? path).getD Vacancy.vacant)).1
      else trie.stored? other
  updated : ∀ {β : Type} (path : List String) (change : α → α × β),
    (trie.update path change).2 = (trie.get? path).map (fun payload => (change payload).2) ∧
    ∀ other, (trie.update path change).1.stored? other =
      if other = path then (trie.get? path).bind fun payload => occupant? (change payload).1
      else trie.stored? other
  swept : ∀ {β : Type} (change : α → α × β),
    (∃ visited, trie.Enumerates visited ∧
      (trie.updateAll change).2 = visited.map fun node => (change node.2).2) ∧
    ∀ path, (trie.updateAll change).1.stored? path =
      (trie.get? path).bind fun payload => occupant? (change payload).1
  listedOnce : (trie.toList.map Prod.fst).Nodup
  mem_toList : ∀ path payload, (path, payload) ∈ trie.toList ↔ trie.stored? path = some payload

variable {β : Type} (trie : Trie α)

theorem stored?_upsert (path : List String) (change : α → α × β) (other : List String) :
    (trie.upsert path change).1.stored? other =
      if other = path then occupant? (change ((trie.get? path).getD Vacancy.vacant)).1
      else trie.stored? other := by
  have reads := Node.payloadAt_upsert change path other trie.root
  rw [stored?_eq, stored?_eq, ← Node.occupant?_payloadAt, ← Node.occupant?_payloadAt]
  exact (congrArg occupant? reads).trans (apply_ite occupant? _ _ _)

theorem stored?_update (path : List String) (change : α → α × β) (other : List String) :
    (trie.update path change).1.stored? other =
      if other = path then (trie.get? path).bind fun payload => occupant? (change payload).1
      else trie.stored? other := by
  rw [stored?_eq, stored?_eq]
  exact Node.storedAt_update change path other trie.root

theorem update_snd (path : List String) (change : α → α × β) :
    (trie.update path change).2 = (trie.get? path).map fun payload => (change payload).2 := by
  have answer := Node.update_snd change path trie.root
  change (trie.update path change).2 = _ at answer
  rw [answer, get?]
  cases found : trie.root.find? path with
  | none => simp
  | some node => simp [Node.payloadAt, found]

theorem actsAsMap : trie.ActsAsMap where
  upserted path change := ⟨Node.upsert_snd change path trie.root, trie.stored?_upsert path change⟩
  updated path change := ⟨trie.update_snd path change, trie.stored?_update path change⟩
  swept change := ⟨⟨trie.nodes, trie.enumerates_nodes, trie.updateAll_snd change⟩,
    trie.stored?_updateAll change⟩
  listedOnce := Node.nodup_paths trie.ordered
  mem_toList path payload := by
    rw [stored?_eq_some_iff]
    exact Node.mem_entries trie.ordered

/-- What a change leaves that keeps vacant payloads vacant, told by what is stored. -/
theorem bind_occupant?_change {change : α → α} (keeps : KeepsVacant change) (path : List String) :
    ((trie.get? path).bind fun payload => occupant? (change payload)) =
      (trie.stored? path).bind fun payload => occupant? (change payload) := by
  rw [stored?_eq]
  change _ = ((trie.get? path).bind occupant?).bind _
  rw [Option.bind_assoc]
  exact congrArg (trie.get? path).bind (funext keeps.occupant?_eq_bind)

/-- An edit acts on what is stored as it does on a map, if it keeps vacant payloads vacant. -/
theorem stored?_edit {edit : Edit α} (keeps : edit.KeepsVacant) {map : List String → α}
    (same : ∀ path, trie.stored? path = occupant? (map path)) (path : List String) :
    (trie.edit edit).stored? path = occupant? (edit.onMap map path) := by
  have changed {change : α → α} (keepsVacant : KeepsVacant change) (target : List String) :
      ((trie.get? target).bind fun payload => occupant? (change payload)) =
        occupant? (change (map target)) := by
    rw [trie.bind_occupant?_change keepsVacant, same, ← keepsVacant.occupant?_eq_bind]
  cases edit with
  | put target payload =>
      rw [Edit.onMap, Function.update_apply, apply_ite occupant?, ← same]
      exact trie.stored?_upsert target (fun _ => (payload, ())) path
  | update target change =>
      rw [Edit.onMap, Function.update_apply, apply_ite occupant?, ← same, ← changed keeps target]
      exact trie.stored?_update target (fun payload => (change payload, ())) path
  | updateAll change =>
      exact (trie.stored?_updateAll (fun payload => (change payload, ())) path).trans
        (changed keeps path)

theorem stored?_empty (path : List String) : (empty : Trie α).stored? path = none := by
  have idle : (Node.idle : Node α).isIdle = true := by simp [Node.isIdle, Node.idle, Branches.isNone]
  rw [stored?_eq]
  exact Node.storedAt_of_isIdle idle path

theorem stored?_after {history : List (Edit α)} (keep : ∀ edit ∈ history, edit.KeepsVacant)
    (path : List String) :
    (after history).stored? path = occupant? (Edit.mapAfter history path) := by
  induction history using List.reverseRecOn generalizing path with
  | nil => exact (stored?_empty path).trans occupant?_vacant.symm
  | append_singleton earlier last ih =>
      have earlierKeep : ∀ edit ∈ earlier, edit.KeepsVacant := fun edit member =>
        keep edit (List.mem_append_left [last] member)
      have lastKeeps : last.KeepsVacant := keep last (by simp)
      rw [after_append_singleton, Edit.mapAfter_append_singleton]
      exact stored?_edit _ lastKeeps (ih earlierKeep) path

/-- Every trie is a map that each way of writing changes as it should, and after edits that keep
vacant payloads vacant it is the map that the edits have made. -/
theorem acts_as_map :
    (∀ trie : Trie α, trie.ActsAsMap) ∧
      ∀ history : List (Edit α), (∀ edit ∈ history, edit.KeepsVacant) →
        ∀ path, (after history).stored? path = occupant? (Edit.mapAfter history path) :=
  ⟨actsAsMap, fun _ keep => stored?_after keep⟩

/-- The edits leave a vacant node, change one that is missing, and come to each node in the end. -/
theorem acts_as_map_despite_vacant_nodes :
    let history : List (Edit (Option ℕ)) :=
      [.put ["a", "b"] (some 1), .put ["a", "c"] (some 2), .put ["a", "b", "d"] none,
        .update ["a", "b"] fun _ => none, .update ["x"] fun _ => none,
        .updateAll fun slot => slot.map (· + 1)]
    (∀ edit ∈ history, edit.KeepsVacant) ∧ (after history).ActsAsMap ∧
      (after history).stored? ["a", "c"] = occupant? (Edit.mapAfter history ["a", "c"]) ∧
      Edit.mapAfter history ["a", "c"] = some 3 ∧ (after history).toList = [(["a", "c"], some 3)] := by
  intro history
  have keep : ∀ edit ∈ history, edit.KeepsVacant := by
    simp [history, Edit.KeepsVacant, KeepsVacant, isVacant]
  exact ⟨keep, acts_as_map.1 (after history), acts_as_map.2 history keep ["a", "c"],
    by decide +kernel, by decide +kernel⟩

end Trie

end TopicBroker

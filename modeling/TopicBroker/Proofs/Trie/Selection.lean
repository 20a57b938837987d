import TopicBroker.Proofs.Trie.SearchOrder

/-!
# What a filter selects

A selection walks a trie with the levels of a filter: a literal level follows
one branch, a `+` follows every branch with a level that is not empty, and a
`#` takes everything from there on.  If a `#` stands nowhere but at the end, as
it does in every valid filter, this finds exactly the stored paths that the
flat matcher lets through, in the order in which they are listed.
-/

namespace TopicBroker

/-- The level that stands for all remaining ones is used at the end only. -/
def MultiOnlyLast : List String → Prop
  | [] => True
  | level :: rest => (level = LevelPattern.multiText → rest = []) ∧ MultiOnlyLast rest

namespace LevelPattern

/-- The pattern stands for exactly one level, and for this one among others. -/
def Admits : LevelPattern → String → Prop
  | literal text, level => level = text
  | single, level => level ≠ ""
  | multi, _ => False

instance (pattern : LevelPattern) (level : String) : Decidable (pattern.Admits level) :=
  match pattern with
  | literal text => inferInstanceAs (Decidable (level = text))
  | single => inferInstanceAs (Decidable (level ≠ ""))
  | multi => inferInstanceAs (Decidable False)

@[simp]
theorem admits_literal {text level : String} : (literal text).Admits level ↔ level = text :=
  ⟨id, id⟩

@[simp]
theorem admits_single {level : String} : single.Admits level ↔ level ≠ "" :=
  ⟨id, id⟩

end LevelPattern

theorem matchesLevels_cons_cons {level : String} (one : LevelPattern.ofLevel level ≠ .multi)
    (filter : List String) (head : String) (rest : List String) :
    matchesLevels (level :: filter) (head :: rest) =
      ((LevelPattern.ofLevel level).Admits head && matchesLevels filter rest) := by
  rw [Bool.eq_iff_iff]
  cases kind : LevelPattern.ofLevel level with
  | multi => exact absurd kind one
  | single => simp [matchesLevels, kind]
  | literal text => simp [matchesLevels, kind]

variable {α β : Type}

namespace Branches

variable {branches : Branches α}

theorem mem_toList (ordered : branches.Ordered) {key : String} {child : Node α} :
    (key, child) ∈ branches.toList ↔ branches.find? key = some child := by
  induction branches with
  | none => simp [toList, find?]
  | branch level payload below after _ ih =>
      simp only [toList, find?, List.mem_cons, Prod.mk.injEq, ih ordered.2.1]
      by_cases same : key = level
      · subst same
        simp [ordered.find?_after, eq_comm]
      · simp [same]

/-- Of ordered branches one at most has a given level. -/
theorem flatMap_toList_eq (ordered : branches.Ordered) (key : String) (found : Node α → List β) :
    (branches.toList.flatMap fun branch => if branch.1 = key then found branch.2 else []) =
      ((branches.find? key).map found).getD [] := by
  induction branches with
  | none => rfl
  | branch level payload below after _ ih =>
      rw [toList, List.flatMap_cons, ih ordered.2.1, find?]
      by_cases same : key = level
      · subst same
        simp [ordered.find?_after]
      · simp [same, Ne.symm same]

theorem entries_eq_flatMap [Vacancy α] (branches : Branches α) :
    branches.entries = branches.toList.flatMap fun branch =>
      branch.2.entries.map fun entry => (branch.1 :: entry.1, entry.2) := by
  induction branches with
  | none => rfl
  | branch level payload below after _ ih =>
      rw [entries_branch, toList, List.flatMap_cons, ih]

end Branches

namespace Node

variable [Vacancy α] {filter : List String} {node : Node α}

theorem filter_entries (node : Node α) (keeps : List String → Bool) :
    (node.entries.filter fun entry => keeps entry.1) =
      (if keeps [] then node.own.map ([], ·) else []) ++
        node.branches.entries.filter fun entry => keeps entry.1 := by
  rw [entries, List.filter_append, List.filter_map]
  cases kept : keeps [] <;> simp [Function.comp_def, kept]

/-- A level of a filter that is no `#` lets the selection go on along the branches that it admits. -/
theorem select_cons (ordered : node.branches.Ordered) {level : String}
    (one : LevelPattern.ofLevel level ≠ .multi) (rest : List String) :
    node.select (level :: rest) = node.branches.toList.flatMap fun branch =>
      if (LevelPattern.ofLevel level).Admits branch.1 then
        (branch.2.select rest).map fun entry => (branch.1 :: entry.1, entry.2)
      else [] := by
  cases kind : LevelPattern.ofLevel level with
  | multi => exact absurd kind one
  | single => simp [select, kind]
  | literal text =>
      have followed := Branches.flatMap_toList_eq ordered text fun child =>
        (child.select rest).map fun entry => (text :: entry.1, entry.2)
      simp only [select, kind, LevelPattern.admits_literal]
      rw [← followed]
      refine congrArg (node.branches.toList.flatMap ·) (funext fun branch => ?_)
      split
      case isTrue same => rw [same]
      case isFalse => rfl

/-- A selection lists what the flat matcher leaves of the whole listing. -/
theorem select_eq_filter (ordered : node.branches.Ordered) (last : MultiOnlyLast filter) :
    node.select filter = node.entries.filter fun entry => matchesLevels filter entry.1 := by
  induction filter generalizing node with
  | nil =>
      have below : (node.branches.entries.filter fun entry => matchesLevels [] entry.1) = [] := by
        rw [List.filter_eq_nil_iff]
        rintro ⟨path, payload⟩ listed
        have nonempty := ((Branches.mem_entries ordered payload).mp listed).1
        simpa [matchesLevels] using nonempty
      rw [filter_entries, below, List.append_nil]
      rfl
  | cons level rest ih =>
      by_cases multi : LevelPattern.ofLevel level = .multi
      · have nothing := last.1 (LevelPattern.ofLevel_eq_multi.mp multi)
        simp [select, multi, matchesLevels, nothing]
      · have notHere : matchesLevels (level :: rest) [] = false :=
          matchesLevels_cons_nil rest (mt LevelPattern.ofLevel_eq_multi.mpr multi)
        rw [filter_entries, notHere, if_neg Bool.false_ne_true, List.nil_append,
          Branches.entries_eq_flatMap, List.filter_flatMap, select_cons ordered multi]
        refine List.flatMap_congr fun branch member => ?_
        have below := ih (ordered.of_find? ((Branches.mem_toList ordered).mp member)) last.2
        rw [List.filter_map, below]
        by_cases admitted : (LevelPattern.ofLevel level).Admits branch.1
        · simp [Function.comp_def, matchesLevels_cons_cons multi, admitted]
        · simp [Function.comp_def, matchesLevels_cons_cons multi, admitted]

end Node

namespace Trie

variable [Vacancy α]

/-- The selection by a filter has each stored path that the filter matches once, with the payload
that is stored there, and nothing else. -/
structure SelectsExactly (trie : Trie α) (filter : List String) : Prop where
  once : ((trie.select filter).map Prod.fst).Nodup
  mem : ∀ path payload, (path, payload) ∈ trie.select filter ↔
    trie.get? path = some payload ∧ isVacant payload = false ∧ matchesLevels filter path = true

theorem selectsExactly (trie : Trie α) {filter : List String} (last : MultiOnlyLast filter) :
    trie.SelectsExactly filter := by
  have selected : trie.select filter = _ := Node.select_eq_filter trie.ordered last
  refine ⟨?_, fun path payload => ?_⟩
  · rw [selected]
    exact (List.filter_sublist.map Prod.fst).nodup (Node.nodup_paths trie.ordered)
  · rw [selected, List.mem_filter, Node.mem_entries trie.ordered, stores_iff_get?, and_assoc]

/-- A selection finds what the flat matcher lets through, and a lone `#` lists the whole trie, with
what is stored at the root. -/
theorem selects_exactly (trie : Trie α) :
    (∀ filter, MultiOnlyLast filter → trie.SelectsExactly filter) ∧
      trie.select [LevelPattern.multiText] = trie.toList ∧
      ∀ payload, trie.get? [] = some payload → isVacant payload = false →
        ([], payload) ∈ trie.select [LevelPattern.multiText] := by
  have last : MultiOnlyLast [LevelPattern.multiText] := ⟨fun _ => rfl, trivial⟩
  refine ⟨fun filter => trie.selectsExactly, ?_, fun payload found occupied => ?_⟩
  · simp [select, toList, Node.select, LevelPattern.ofLevel_eq_multi.mpr]
  · have everything : matchesLevels [LevelPattern.multiText] [] = true := matchesLevels_multi [] []
    exact ((trie.selectsExactly last).mem [] payload).mpr ⟨found, occupied, everything⟩

/-- The levels of the trie may be empty or wildcards themselves, and a vacant node stands in it. -/
theorem selects_exactly_among_odd_levels :
    let trie : Trie (Option ℕ) :=
      [([], some 0), (["a"], none), (["a", "b"], some 1), (["a", ""], some 2),
        (["a", "+", "#", "c"], some 3), (["", "b"], some 4)].foldl
        (fun trie entry => (trie.upsert entry.1 fun _ => (entry.2, ())).1) Trie.empty
    MultiOnlyLast ["a", "+", "#"] ∧ trie.SelectsExactly ["a", "+", "#"] ∧
      trie.select ["a", "+", "#"] = [(["a", "+", "#", "c"], some 3), (["a", "b"], some 1)] ∧
      trie.get? [] = some (some 0) ∧ ([], some 0) ∈ trie.select [LevelPattern.multiText] := by
  intro trie
  have last : MultiOnlyLast ["a", "+", "#"] := by simp [MultiOnlyLast, LevelPattern.multiText]
  have atRoot : trie.get? [] = some (some 0) := by decide +kernel
  exact ⟨last, (selects_exactly trie).1 ["a", "+", "#"] last, by decide +kernel, atRoot,
    (selects_exactly trie).2.2 (some 0) atRoot rfl⟩

end Trie

end TopicBroker

import TopicBroker.Proofs.Trie.Contents
import TopicBroker.Topic.Matching
import Mathlib.Data.List.Sort
import Mathlib.Data.Prod.Lex
import Mathlib.Data.String.Basic

/-!
# What a search finds, and in which order

A search for a topic follows several branches of the trie at once, while the
flat matcher compares the topic with one filter at a time.  Both agree: the
search finds each stored filter that matches the topic, and finds it once.

The order in which filters are found depends on the filters alone.  At the
first place where two of them differ, a `#` comes first, then the filter that
ends there, then a `+`, and a literal level comes last.  `searchKey` turns this
rule into the lexicographic order of lists.
-/

namespace TopicBroker

/-- Where a level stands among the ways on that a search tries.  The number one
is left for a path that ends. -/
def LevelPattern.turn : LevelPattern → ℕ
  | multi => 0
  | single => 2
  | literal _ => 3

/-- Paths are found in the lexicographic order of their keys. -/
def searchKey (path : List String) : List (ℕ ×ₗ String) :=
  path.map (fun level => toLex ((LevelPattern.ofLevel level).turn, level)) ++ [toLex (1, "")]

/-- No level of the topic is a wildcard. -/
def PlainLevels (topic : List String) : Prop :=
  ∀ level ∈ topic, level ≠ LevelPattern.singleText ∧ level ≠ LevelPattern.multiText

theorem searchKey_injective : Function.Injective searchKey := by
  intro first second same
  have levels := List.append_cancel_right same
  refine List.map_injective_iff.mpr ?_ levels
  intro level other equal
  exact congrArg (fun entry => (ofLex entry).2) equal

theorem searchKey_cons_lt_cons_iff (level : String) (first second : List String) :
    searchKey (level :: first) < searchKey (level :: second) ↔
      searchKey first < searchKey second := by
  simp only [searchKey, List.map_cons, List.cons_append, List.cons_lt_cons_iff, lt_irrefl,
    false_or, true_and]

theorem searchKey_lt_of_turn_lt {level other : String}
    (earlier : (LevelPattern.ofLevel level).turn < (LevelPattern.ofLevel other).turn)
    (first second : List String) :
    searchKey (level :: first) < searchKey (other :: second) := by
  simp only [searchKey, List.map_cons, List.cons_append, List.cons_lt_cons_iff]
  exact Or.inl (Prod.Lex.toLex_lt_toLex.mpr (Or.inl earlier))

theorem searchKey_multi_lt_nil (rest : List String) :
    searchKey (LevelPattern.multiText :: rest) < searchKey [] := by
  have first : (LevelPattern.ofLevel LevelPattern.multiText).turn < 1 := by decide
  simp only [searchKey, List.map_cons, List.cons_append, List.map_nil, List.nil_append,
    List.cons_lt_cons_iff]
  exact Or.inl (Prod.Lex.toLex_lt_toLex.mpr (Or.inl first))

section Matching

variable (filter topic : List String)

theorem matchesLevels_multi :
    matchesLevels (LevelPattern.multiText :: filter) topic = filter.isEmpty := by
  simp [matchesLevels, LevelPattern.ofLevel_eq_multi.mpr]

theorem matchesLevels_single (level : String) :
    matchesLevels (LevelPattern.singleText :: filter) (level :: topic) =
      (level ≠ "" && matchesLevels filter topic) := by
  simp [matchesLevels, LevelPattern.ofLevel_eq_single.mpr]

theorem matchesLevels_literal {text : String} (notSingle : text ≠ LevelPattern.singleText)
    (notMulti : text ≠ LevelPattern.multiText) (level : String) :
    matchesLevels (text :: filter) (level :: topic) =
      (level = text && matchesLevels filter topic) := by
  simp [matchesLevels, LevelPattern.ofLevel, notSingle, notMulti]

theorem matchesLevels_cons_nil {level : String} (other : level ≠ LevelPattern.multiText) :
    matchesLevels (level :: filter) [] = false := by
  cases kind : LevelPattern.ofLevel level with
  | multi => exact absurd (LevelPattern.ofLevel_eq_multi.mp kind) other
  | single => simp [matchesLevels, kind]
  | literal text => simp [matchesLevels, kind]

end Matching

variable {α : Type}

namespace Node

/-- What is found along one branch, with the level of the branch put in front of the paths. -/
def along (node : Node α) (level : String) (found : Node α → List (List String × α)) :
    List (List String × α) :=
  (((node.branches.find? level).map found).getD []).map fun hit => (level :: hit.1, hit.2)

theorem map_snd_along (node : Node α) (level : String)
    (found : Node α → List (List String × α)) :
    (node.along level found).map Prod.snd =
      ((node.branches.find? level).map fun child => (found child).map Prod.snd).getD [] := by
  cases branch : node.branches.find? level <;> simp [along, branch, Function.comp_def]

theorem mem_along {node : Node α} {level : String} {found : Node α → List (List String × α)}
    {path : List String} {payload : α} :
    (path, payload) ∈ node.along level found ↔
      ∃ rest child, path = level :: rest ∧ node.branches.find? level = some child ∧
        (rest, payload) ∈ found child := by
  unfold along
  cases branch : node.branches.find? level with
  | none => simp
  | some child =>
      simp only [Option.map_some, Option.getD_some, List.mem_map, Prod.mk.injEq, Option.some.injEq]
      constructor
      · rintro ⟨⟨rest, _⟩, member, rfl, rfl⟩
        exact ⟨rest, child, rfl, rfl, member⟩
      · rintro ⟨rest, _, rfl, rfl, member⟩
        exact ⟨(rest, payload), member, rfl, rfl⟩

variable [Vacancy α]

/-- The hit of the filter that ends in a `#` right below a node. -/
def hitOfAnyRest (node : Node α) : List (List String × α) :=
  node.along LevelPattern.multiText fun child => child.own.map ([], ·)

/-- The search for a topic, with the path of every payload that it finds. -/
def hits : (topic : List String) → Node α → List (List String × α)
  | [], node => node.hitOfAnyRest ++ node.own.map ([], ·)
  | level :: rest, node =>
    node.hitOfAnyRest ++
      ((if level = "" then [] else node.along LevelPattern.singleText (hits rest)) ++
        node.along level (hits rest))

theorem map_snd_hits (topic : List String) (node : Node α) :
    (node.hits topic).map Prod.snd = node.matching topic := by
  have anyRest (node : Node α) : node.hitOfAnyRest.map Prod.snd =
      ((node.branches.find? LevelPattern.multiText).map own).getD [] := by
    simp [hitOfAnyRest, map_snd_along, Function.comp_def]
  induction topic generalizing node with
  | nil => simp [hits, matching, anyRest, Function.comp_def]
  | cons level rest ih =>
      have below : (fun child : Node α => (hits rest child).map Prod.snd) = matching rest :=
        funext ih
      simp only [hits, matching, List.map_append, anyRest, map_snd_along, below,
        apply_ite (List.map Prod.snd), List.map_nil]

section Membership

variable {path : List String} {payload : α} {node : Node α}

theorem mem_hitOfAnyRest :
    (path, payload) ∈ node.hitOfAnyRest ↔
      path = [LevelPattern.multiText] ∧ node.Stores path payload := by
  simp only [hitOfAnyRest, mem_along, List.mem_map, Prod.mk.injEq]
  constructor
  · rintro ⟨_, child, rfl, found, _, own, rfl, rfl⟩
    exact ⟨rfl, stores_cons.mpr ⟨child, found, mem_own.mp own⟩⟩
  · rintro ⟨rfl, stored⟩
    obtain ⟨child, found, own⟩ := stores_cons.mp stored
    exact ⟨[], child, rfl, found, payload, mem_own.mpr own, rfl, rfl⟩

/-- The search finds what the flat matcher lets through, and nothing else. -/
theorem mem_hits {topic : List String} (plain : PlainLevels topic) :
    (path, payload) ∈ node.hits topic ↔
      node.Stores path payload ∧ matchesLevels path topic = true := by
  induction topic generalizing node path with
  | nil =>
      simp only [hits, List.mem_append, mem_hitOfAnyRest, List.mem_map, Prod.mk.injEq]
      cases path with
      | nil => simp [mem_own, matchesLevels]
      | cons head rest =>
          by_cases multi : head = LevelPattern.multiText
          · subst multi
            simp [matchesLevels_multi, and_comm]
          · simp [matchesLevels_cons_nil rest multi, multi]
  | cons level topic ih =>
      obtain ⟨notSingle, notMulti⟩ := plain level (List.mem_cons_self ..)
      have below : PlainLevels topic := fun other member =>
        plain other (List.mem_cons_of_mem level member)
      have distinct : LevelPattern.multiText ≠ LevelPattern.singleText := by decide
      have onSingle : (path, payload) ∈
          (if level = "" then [] else node.along LevelPattern.singleText (hits topic)) ↔
            level ≠ "" ∧ (path, payload) ∈ node.along LevelPattern.singleText (hits topic) := by
        split <;> simp_all
      simp only [hits, List.mem_append, mem_hitOfAnyRest, onSingle, mem_along, ih below]
      cases path with
      | nil => simp [matchesLevels]
      | cons head rest =>
          simp only [List.cons.injEq, stores_cons]
          by_cases multi : head = LevelPattern.multiText
          · subst multi
            simp [matchesLevels_multi, distinct, notMulti.symm, and_comm]
          · by_cases single : head = LevelPattern.singleText
            · subst single
              rw [matchesLevels_single]
              constructor
              · rintro (⟨⟨same, _⟩, _⟩ | ⟨occupied, tail, child, ⟨_, rfl⟩, found, hit⟩ |
                  ⟨_, _, ⟨same, _⟩, _⟩)
                · exact absurd same multi
                · exact ⟨⟨child, found, hit.1⟩, by simp [occupied, hit.2]⟩
                · exact absurd same.symm notSingle
              · rintro ⟨⟨child, found, stored⟩, accepted⟩
                obtain ⟨occupied, rest_matches⟩ := (Bool.and_eq_true_iff).mp accepted
                exact Or.inr (Or.inl ⟨of_decide_eq_true occupied, rest, child, ⟨rfl, rfl⟩, found,
                  stored, rest_matches⟩)
            · rw [matchesLevels_literal rest topic single multi]
              constructor
              · rintro (⟨⟨same, _⟩, _⟩ | ⟨_, _, _, ⟨same, _⟩, _⟩ | ⟨tail, child, ⟨same, rfl⟩, found, hit⟩)
                · exact absurd same multi
                · exact absurd same single
                · subst same
                  exact ⟨⟨child, found, hit.1⟩, by simp [hit.2]⟩
              · rintro ⟨⟨child, found, stored⟩, accepted⟩
                obtain ⟨same, rest_matches⟩ := (Bool.and_eq_true_iff).mp accepted
                obtain rfl := of_decide_eq_true same
                exact Or.inr (Or.inr ⟨rest, child, ⟨rfl, rfl⟩, found, stored, rest_matches⟩)

end Membership

/-- Hits come in increasing order of their keys. -/
def InSearchOrder (hits : List (List String × α)) : Prop :=
  hits.Pairwise fun first second => searchKey first.1 < searchKey second.1

theorem inSearchOrder_own (node : Node α) : InSearchOrder (node.own.map (([] : List String), ·)) := by
  unfold InSearchOrder own
  split <;> simp

omit [Vacancy α] in
theorem inSearchOrder_along (node : Node α) (level : String)
    {found : Node α → List (List String × α)} (sorted : ∀ child, InSearchOrder (found child)) :
    InSearchOrder (node.along level found) := by
  unfold along
  cases node.branches.find? level with
  | none => exact List.Pairwise.nil
  | some child =>
      refine List.pairwise_map.mpr ((sorted child).imp ?_)
      intro first second less
      exact (searchKey_cons_lt_cons_iff level first.1 second.1).mpr less

theorem inSearchOrder_hits {topic : List String} (plain : PlainLevels topic) (node : Node α) :
    InSearchOrder (node.hits topic) := by
  have anyRestSorted (node : Node α) : InSearchOrder node.hitOfAnyRest :=
    inSearchOrder_along node _ inSearchOrder_own
  induction topic generalizing node with
  | nil =>
      refine List.pairwise_append.mpr ⟨anyRestSorted node, inSearchOrder_own node, ?_⟩
      intro first firstMember second secondMember
      obtain ⟨same, _⟩ := mem_hitOfAnyRest.mp firstMember
      obtain ⟨payload, _, rfl⟩ := List.mem_map.mp secondMember
      exact same ▸ searchKey_multi_lt_nil []
  | cons level topic ih =>
      obtain ⟨notSingle, notMulti⟩ := plain level (List.mem_cons_self ..)
      have sorted := ih fun other member => plain other (List.mem_cons_of_mem level member)
      have turnMulti : (LevelPattern.ofLevel LevelPattern.multiText).turn = 0 := by decide
      have turnSingle : (LevelPattern.ofLevel LevelPattern.singleText).turn = 2 := by decide
      have turnLevel : (LevelPattern.ofLevel level).turn = 3 := by
        simp [LevelPattern.ofLevel, notSingle, notMulti, LevelPattern.turn]
      have onSingle : InSearchOrder
          (if level = "" then [] else node.along LevelPattern.singleText (hits topic)) := by
        split
        · exact List.Pairwise.nil
        · exact inSearchOrder_along node _ sorted
      have singleStart {path : List String} {payload : α} (member : (path, payload) ∈
          (if level = "" then [] else node.along LevelPattern.singleText (hits topic))) :
          ∃ rest, path = LevelPattern.singleText :: rest := by
        split at member
        · cases member
        · obtain ⟨rest, _, rfl, _⟩ := mem_along.mp member
          exact ⟨rest, rfl⟩
      refine List.pairwise_append.mpr ⟨anyRestSorted node, List.pairwise_append.mpr
        ⟨onSingle, inSearchOrder_along node level sorted, ?_⟩, ?_⟩
      · intro first firstMember second secondMember
        obtain ⟨_, singlePath⟩ := singleStart firstMember
        obtain ⟨_, _, levelPath, _⟩ := mem_along.mp secondMember
        rw [singlePath, levelPath]
        exact searchKey_lt_of_turn_lt (by omega) _ _
      · intro first firstMember second secondMember
        obtain ⟨multiPath, _⟩ := mem_hitOfAnyRest.mp firstMember
        rw [multiPath]
        rcases List.mem_append.mp secondMember with viaSingle | viaLevel
        · obtain ⟨_, singlePath⟩ := singleStart viaSingle
          rw [singlePath]
          exact searchKey_lt_of_turn_lt (by omega) _ _
        · obtain ⟨_, _, levelPath, _⟩ := mem_along.mp viaLevel
          rw [levelPath]
          exact searchKey_lt_of_turn_lt (by omega) _ _

theorem hits_perm {topic : List String} (plain : PlainLevels topic) {node : Node α}
    (ordered : node.branches.Ordered) :
    (node.hits topic).Perm (node.entries.filter fun entry => matchesLevels entry.1 topic) := by
  have hitsNodup : (node.hits topic).Nodup :=
    (inSearchOrder_hits plain node).imp fun less same => absurd (same ▸ less) (lt_irrefl _)
  have entriesNodup : (node.entries.filter fun entry => matchesLevels entry.1 topic).Nodup :=
    (List.Nodup.of_map _ (nodup_paths ordered)).filter _
  refine (List.perm_ext_iff_of_nodup hitsNodup entriesNodup).mpr fun entry => ?_
  rw [mem_hits plain, List.mem_filter, mem_entries ordered]

end Node

end TopicBroker

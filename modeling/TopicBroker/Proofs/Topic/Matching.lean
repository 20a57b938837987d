import Mathlib.Data.List.Forall2
import TopicBroker.Proofs.Trie.Selection

/-!
# What a filter matches

The flat matcher walks a filter and a topic side by side and may stop early.
What it decides can be said without any walk.  A filter without a `#` matches
the topics with as many levels that agree with it level by level.  A filter
that ends in its only `#` matches the topics that begin with such levels.  No
other filter matches anything.

This holds for all level lists, also for those that no valid filter or topic
name has.
-/

namespace TopicBroker

/-- A level of a filter agrees with one level of a topic: a `+` with every level that is not empty,
and a level that is no wildcard with itself. -/
def Agrees (level given : String) : Prop :=
  (level = LevelPattern.singleText ∧ given ≠ "") ∨
    (level ≠ LevelPattern.singleText ∧ level ≠ LevelPattern.multiText ∧ level = given)

/-- The topic has as many levels as the filter, and each level of the filter agrees with the level
in the same place. -/
def AgreesLevelwise (filter topic : List String) : Prop :=
  filter.length = topic.length ∧
    ∀ index (inFilter : index < filter.length) (inTopic : index < topic.length),
      Agrees filter[index] topic[index]

/-- The topic begins with levels that agree with the filter. -/
def AgreesAtStart (filter topic : List String) : Prop :=
  filter.length ≤ topic.length ∧ AgreesLevelwise filter (topic.take filter.length)

/-- The topic agrees with the whole filter, or begins with levels that agree with everything in
front of the only `#`, which ends the filter. -/
def Covers (filter topic : List String) : Prop :=
  (LevelPattern.multiText ∉ filter ∧ AgreesLevelwise filter topic) ∨
    ∃ front, filter = front ++ [LevelPattern.multiText] ∧ LevelPattern.multiText ∉ front ∧
      AgreesAtStart front topic

section Levelwise

variable {filter front rest topic : List String} {level head : String}

theorem admits_iff_agrees (one : level ≠ LevelPattern.multiText) :
    (LevelPattern.ofLevel level).Admits head ↔ Agrees level head := by
  by_cases single : level = LevelPattern.singleText
  · simp [Agrees, LevelPattern.ofLevel, single]
  · simp [Agrees, LevelPattern.ofLevel, single, one, eq_comm]

theorem agreesLevelwise_iff : AgreesLevelwise filter topic ↔ List.Forall₂ Agrees filter topic :=
  List.forall₂_iff_get.symm

theorem agreesAtStart_cons :
    AgreesAtStart (level :: filter) (head :: topic) ↔
      Agrees level head ∧ AgreesAtStart filter topic := by
  simp only [AgreesAtStart, agreesLevelwise_iff, List.length_cons, List.take_succ_cons,
    List.forall₂_cons, Nat.add_le_add_iff_right]
  tauto

theorem agreesLevelwise_iff_atStart :
    AgreesLevelwise filter topic ↔ AgreesAtStart filter topic ∧ topic.drop filter.length = [] := by
  rw [List.drop_eq_nil_iff]
  constructor
  · intro agrees
    have sameLength := agrees.1
    rw [AgreesAtStart, List.take_of_length_le (by omega)]
    exact ⟨⟨by omega, agrees⟩, by omega⟩
  · rintro ⟨⟨_, agrees⟩, short⟩
    rwa [List.take_of_length_le short] at agrees

/-- The walk along levels that are no `#` goes on behind them. -/
theorem matchesLevels_append (noMulti : LevelPattern.multiText ∉ front) :
    matchesLevels (front ++ rest) topic = true ↔
      AgreesAtStart front topic ∧ matchesLevels rest (topic.drop front.length) = true := by
  induction front generalizing topic with
  | nil => simp [AgreesAtStart, AgreesLevelwise]
  | cons level front ih =>
      obtain ⟨other, noneBelow⟩ := List.ne_and_not_mem_of_not_mem_cons noMulti
      cases topic with
      | nil => simp [matchesLevels_cons_nil _ (Ne.symm other), AgreesAtStart]
      | cons head topic =>
          have one := mt LevelPattern.ofLevel_eq_multi.mp (Ne.symm other)
          rw [List.cons_append, matchesLevels_cons_cons one, Bool.and_eq_true, decide_eq_true_eq,
            admits_iff_agrees (Ne.symm other), ih noneBelow, agreesAtStart_cons, and_assoc,
            List.length_cons, List.drop_succ_cons]

theorem matchesLevels_iff_of_noMulti (noMulti : LevelPattern.multiText ∉ filter) :
    matchesLevels filter topic = true ↔ AgreesLevelwise filter topic := by
  have walked := @matchesLevels_append filter [] topic noMulti
  rw [List.append_nil] at walked
  rw [walked, agreesLevelwise_iff_atStart, matchesLevels, List.isEmpty_iff]

/-- The first `#` ends the walk. -/
theorem matchesLevels_append_multi (noMulti : LevelPattern.multiText ∉ front) :
    matchesLevels (front ++ LevelPattern.multiText :: rest) topic = true ↔
      rest = [] ∧ AgreesAtStart front topic := by
  rw [matchesLevels_append noMulti, matchesLevels_multi, List.isEmpty_iff, and_comm]

/-- Where a filter has its first `#`, the `#` of a covering filter must stand. -/
theorem covers_append_multi (noMulti : LevelPattern.multiText ∉ front) :
    Covers (front ++ LevelPattern.multiText :: rest) topic ↔
      rest = [] ∧ AgreesAtStart front topic := by
  constructor
  · rintro (⟨none, _⟩ | ⟨other, same, noneBefore, agrees⟩)
    · exact absurd (by simp) none
    · have last : rest = [] := by
        by_contra more
        have begins := congrArg List.dropLast same
        rw [List.dropLast_append_of_ne_nil (List.cons_ne_nil _ _), List.dropLast_concat,
          List.dropLast_cons_of_ne_nil more] at begins
        exact noneBefore (begins ▸ by simp)
      subst last
      obtain rfl := List.append_cancel_right same
      exact ⟨rfl, agrees⟩
  · rintro ⟨rfl, agrees⟩
    exact Or.inr ⟨front, rfl, noMulti, agrees⟩

theorem matchesLevels_iff_covers (filter topic : List String) :
    matchesLevels filter topic = true ↔ Covers filter topic := by
  by_cases multi : LevelPattern.multiText ∈ filter
  · obtain ⟨front, rest, rfl, noMulti⟩ := List.eq_append_cons_of_mem multi
    rw [matchesLevels_append_multi noMulti, covers_append_multi noMulti]
  · have notLast : ∀ front, filter ≠ front ++ [LevelPattern.multiText] := by
      rintro front rfl
      exact multi (by simp)
    simp [matchesLevels_iff_of_noMulti multi, Covers, multi, notLast]

theorem matchesLevels_of_behind_multi (front topic : List String) (more : rest ≠ []) :
    matchesLevels (front ++ LevelPattern.multiText :: rest) topic = false := by
  rw [← Bool.not_eq_true]
  intro accepted
  by_cases multi : LevelPattern.multiText ∈ front
  · obtain ⟨first, behind, rfl, noMulti⟩ := List.eq_append_cons_of_mem multi
    rw [List.append_assoc, List.cons_append, matchesLevels_append_multi noMulti] at accepted
    exact List.append_ne_nil_of_right_ne_nil behind (List.cons_ne_nil _ _) accepted.1
  · rw [matchesLevels_append_multi multi] at accepted
    exact more accepted.1

theorem agreesLevelwise_of_plain (plain : PlainLevels filter) :
    AgreesLevelwise filter topic ↔ topic = filter := by
  constructor
  · rintro ⟨sameLength, agrees⟩
    refine List.ext_getElem sameLength.symm fun index inTopic inFilter => ?_
    obtain ⟨single, _⟩ | ⟨_, _, same⟩ := agrees index inFilter inTopic
    · exact absurd single (plain _ (List.getElem_mem inFilter)).1
    · exact same.symm
  · rintro rfl
    refine ⟨rfl, fun index inFilter _ => Or.inr ?_⟩
    obtain ⟨notSingle, notMulti⟩ := plain _ (List.getElem_mem inFilter)
    exact ⟨notSingle, notMulti, rfl⟩

end Levelwise

/-- The flat matcher decides what is said level by level.  So a `#` that something follows makes a
filter match nothing, a filter without wildcards matches itself alone, and ending a filter in a `#`
at any place loses no topic. -/
theorem matches_levelwise :
    (∀ filter topic, matchesLevels filter topic = true ↔ Covers filter topic) ∧
    (∀ front rest topic, rest ≠ [] →
      matchesLevels (front ++ LevelPattern.multiText :: rest) topic = false) ∧
    (∀ filter topic, PlainLevels filter →
      (matchesLevels filter topic = true ↔ topic = filter)) ∧
    ∀ front rest topic, LevelPattern.multiText ∉ front ++ rest →
      matchesLevels (front ++ rest) topic = true →
        matchesLevels (front ++ [LevelPattern.multiText]) topic = true := by
  refine ⟨matchesLevels_iff_covers, fun front _ topic => matchesLevels_of_behind_multi front topic,
    fun filter topic plain => ?_, fun front rest topic noMulti accepted => ?_⟩
  · have noMulti : LevelPattern.multiText ∉ filter := fun member => (plain _ member).2 rfl
    rw [matchesLevels_iff_of_noMulti noMulti, agreesLevelwise_of_plain plain]
  · have noneBefore : LevelPattern.multiText ∉ front := fun member =>
      noMulti (List.mem_append_left rest member)
    have agrees := ((matchesLevels_append noneBefore).mp accepted).1
    exact (matchesLevels_append_multi noneBefore).mpr ⟨rfl, agrees⟩

/-- Empty levels, a `#` that stands for no level, a `#` in the middle and a `+` in front of it. -/
theorem matches_levelwise_at_the_edges :
    (matchesLevels ["a", "+", "", "#"] ["a", "b", ""] = true ∧
      Covers ["a", "+", "", "#"] ["a", "b", ""]) ∧
    (["b"] ≠ [] ∧
      matchesLevels (["a", "#"] ++ LevelPattern.multiText :: ["b"]) ["a", "#", "#", "b"] = false) ∧
    (PlainLevels ["", "a"] ∧ (matchesLevels ["", "a"] ["a"] = true ↔ ["a"] = ["", "a"])) ∧
    LevelPattern.multiText ∉ ["a"] ++ ["+", ""] ∧
      matchesLevels (["a"] ++ ["+", ""]) ["a", "#", ""] = true ∧
      matchesLevels (["a"] ++ [LevelPattern.multiText]) ["a", "#", ""] = true := by
  have zeroLevels : matchesLevels ["a", "+", "", "#"] ["a", "b", ""] = true := by decide
  have plain : PlainLevels ["", "a"] := by
    unfold PlainLevels
    decide
  have noMulti : LevelPattern.multiText ∉ ["a"] ++ ["+", ""] := by decide
  have accepted : matchesLevels (["a"] ++ ["+", ""]) ["a", "#", ""] = true := by decide
  obtain ⟨levelwise, behind, itself, widened⟩ := matches_levelwise
  exact ⟨⟨zeroLevels, (levelwise _ _).mp zeroLevels⟩,
    ⟨List.cons_ne_nil _ _, behind _ _ _ (List.cons_ne_nil _ _)⟩, ⟨plain, itself _ _ plain⟩,
    noMulti, accepted, widened _ _ _ noMulti accepted⟩

end TopicBroker

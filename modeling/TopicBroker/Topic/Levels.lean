/-!
# Levels of a topic

A topic text is cut into levels at every slash, so that a leading, trailing or
repeated slash gives empty levels: `/a` has the levels `""` and `"a"`.  Cutting
and joining are inverse to each other on the level lists that texts can give,
which are the non-empty ones whose levels hold no slash.

Two levels are special in a topic filter: `+` stands for one non-empty level
and `#` for all remaining ones.  `LevelPattern` says which of the three kinds
a level is.
-/

namespace TopicBroker

/-- Cut a text at every occurrence of the separator. -/
def splitText (separator : Char) (text : String) : List String :=
  (text.toList.splitOn separator).map String.ofList

/-- The levels of a topic name or filter. -/
def levelsOf (topic : String) : List String :=
  splitText '/' topic

/-- The topic name or filter with the given levels. -/
def joinLevels (levels : List String) : String :=
  "/".intercalate levels

theorem splitText_ne_nil (separator : Char) (text : String) :
    splitText separator text ≠ [] := by
  simp [splitText]

theorem levelsOf_ne_nil (topic : String) : levelsOf topic ≠ [] :=
  splitText_ne_nil '/' topic

/-- Joining the levels of a topic gives the topic back. -/
@[simp]
theorem joinLevels_levelsOf (topic : String) : joinLevels (levelsOf topic) = topic := by
  apply String.toList_inj.mp
  simp [joinLevels, levelsOf, splitText, String.toList_intercalate, Function.comp_def,
    List.intercalate_splitOn]

/-- Cutting the topic of a non-empty list of slash-free levels gives the list back. -/
theorem levelsOf_joinLevels {levels : List String} (nonempty : levels ≠ [])
    (slashFree : ∀ level ∈ levels, '/' ∉ level.toList) :
    levelsOf (joinLevels levels) = levels := by
  have split : (joinLevels levels).toList.splitOn '/' = levels.map String.toList := by
    have joined : (joinLevels levels).toList = ['/'].intercalate (levels.map String.toList) := by
      simp [joinLevels, String.toList_intercalate]
    rw [joined]
    exact List.splitOn_intercalate '/' (by simpa using slashFree) (by simpa using nonempty)
  simp [levelsOf, splitText, split, Function.comp_def]

/-- What a level of a topic filter stands for. -/
inductive LevelPattern where
  /-- The level itself. -/
  | literal (text : String)
  /-- Any one level that is not empty. -/
  | single
  /-- Every remaining level, also none. -/
  | multi
  deriving DecidableEq, Repr

namespace LevelPattern

/-- The level that stands for any one non-empty level. -/
def singleText : String := "+"

/-- The level that stands for all remaining levels. -/
def multiText : String := "#"

/-- What a level stands for. -/
def ofLevel (level : String) : LevelPattern :=
  if level = singleText then single
  else if level = multiText then multi
  else literal level

@[simp]
theorem ofLevel_eq_single {level : String} : ofLevel level = single ↔ level = singleText := by
  unfold ofLevel
  split
  · simp_all
  · split <;> simp_all

@[simp]
theorem ofLevel_eq_multi {level : String} : ofLevel level = multi ↔ level = multiText := by
  unfold ofLevel
  split
  · simp_all [singleText, multiText]
  · split <;> simp_all

end LevelPattern

end TopicBroker

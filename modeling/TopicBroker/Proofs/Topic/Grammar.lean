import TopicBroker.Proofs.Topic.Validity

/-!
# The grammar of names and filters

The checks of a text look at it as a whole and then at one level after another,
and they stop at the first fault.  A text passes them exactly if it follows the
grammar that `IsFilter` spells out, and it is a topic name exactly if it is a
topic filter without any wildcard character.  So a name can be used as a filter
and is cut into the same levels, which join to the text again.
-/

namespace TopicBroker

/-- A wildcard is the whole level, and the one for all remaining levels is the last one. -/
def WellPlaced (last : Prop) (level : String) : Prop :=
  level = LevelPattern.singleText ∨ (level = LevelPattern.multiText ∧ last) ∨
    ('+' ∉ level.toList ∧ '#' ∉ level.toList)

/-- The levels are what stands between the slashes of a text. -/
structure CutInto (text : String) (levels : List String) : Prop where
  nonempty : levels ≠ []
  slashFree : ∀ level ∈ levels, '/' ∉ level.toList
  joined : joinLevels levels = text

/-- What a text must be to be a topic filter with the given levels. -/
structure IsFilter (maxLevels : Nat) (text : String) (levels : List String) : Prop where
  cut : CutInto text levels
  nonempty : text ≠ ""
  bytes : text.utf8ByteSize ≤ 65535
  nullFree : '\x00' ∉ text.toList
  fewLevels : 0 < maxLevels → levels.length ≤ maxLevels
  placed : ∀ index (within : index < levels.length),
    WellPlaced (index + 1 = levels.length) levels[index]

section Levels

theorem levelFault?_eq_none_iff {last : Bool} {level : String} :
    levelFault? last level = none ↔ WellPlaced (last = true) level := by
  have single : '#' ∉ LevelPattern.singleText.toList := by decide
  have multi : '+' ∉ LevelPattern.multiText.toList := by decide
  have multiHas : '#' ∈ LevelPattern.multiText.toList := by decide
  unfold levelFault? WellPlaced
  split_ifs <;> grind

theorem levelsFault?_eq_none_iff {levels : List String} :
    levelsFault? levels = none ↔ ∀ index (within : index < levels.length),
      WellPlaced (index + 1 = levels.length) levels[index] := by
  induction levels with
  | nil => simp [levelsFault?]
  | cons level rest ih =>
      have first : (rest.isEmpty = true) = (0 + 1 = (level :: rest).length) := by
        rw [List.isEmpty_iff, ← List.length_eq_zero_iff, List.length_cons]
        exact propext (by omega)
      rw [levelsFault?, Option.or_eq_none_iff, levelFault?_eq_none_iff, ih, first]
      constructor
      · rintro ⟨here, below⟩ index within
        cases index with
        | zero => exact here
        | succ index => simpa using below index (by simpa using within)
      · intro all
        refine ⟨all 0 (by simp), fun index within => ?_⟩
        have behind := all (index + 1) (Nat.succ_lt_succ within)
        rwa [List.getElem_cons_succ, List.length_cons, Nat.add_right_cancel_iff] at behind

theorem notMem_of_mem_splitOn {separator : Char} {text piece : List Char}
    (cut : piece ∈ text.splitOn separator) : separator ∉ piece := by
  induction text generalizing piece with
  | nil =>
      rw [List.splitOn_nil, List.mem_singleton] at cut
      simp [cut]
  | cons character text ih =>
      rw [List.splitOn_cons_eq_if_modifyHead] at cut
      split at cut
      case isTrue =>
        rcases List.mem_cons.mp cut with rfl | later
        · exact List.not_mem_nil
        · exact ih later
      case isFalse other =>
        have different : separator ≠ character := fun same => other (by simp [same])
        cases pieces : text.splitOn separator with
        | nil => exact absurd pieces (List.splitOn_ne_nil separator text)
        | cons first rest =>
            rw [pieces, List.modifyHead_cons] at cut
            rcases List.mem_cons.mp cut with rfl | later
            · exact List.not_mem_cons_of_ne_of_not_mem different
                (ih (pieces ▸ List.mem_cons_self ..))
            · exact ih (pieces ▸ List.mem_cons_of_mem first later)

theorem cutInto_levelsOf (text : String) : CutInto text (levelsOf text) where
  nonempty := levelsOf_ne_nil text
  slashFree := by
    intro level member
    obtain ⟨piece, cut, rfl⟩ := List.mem_map.mp member
    rw [String.toList_ofList]
    exact notMem_of_mem_splitOn cut
  joined := joinLevels_levelsOf text

/-- A text can be cut in one way only. -/
theorem CutInto.levelsOf_eq {text : String} {levels : List String} (cut : CutInto text levels) :
    levelsOf text = levels := by
  rw [← cut.joined]
  exact levelsOf_joinLevels cut.nonempty cut.slashFree

end Levels

section Texts

variable {maxLevels : Nat} {text : String}

theorem filterFault?_eq_none_iff :
    filterFault? maxLevels text = none ↔ IsFilter maxLevels text (levelsOf text) := by
  have fewLevels : exceedsLimit (levelsOf text).length maxLevels = false ↔
      (0 < maxLevels → (levelsOf text).length ≤ maxLevels) := by
    rw [exceedsLimit_eq_false_iff, or_iff_not_imp_left, Nat.pos_iff_ne_zero]
  have levels := @levelsFault?_eq_none_iff (levelsOf text)
  unfold filterFault?
  constructor
  · intro valid
    split_ifs at valid with empty long null many
    exact ⟨cutInto_levelsOf text, empty, by simpa [maxTopicBytes] using long, null,
      fewLevels.mp (by simpa using many), levels.mp valid⟩
  · rintro ⟨_, nonempty, bytes, nullFree, few, placed⟩
    simp [nonempty, nullFree, fewLevels.mpr few, levels.mpr placed, maxTopicBytes, bytes]

/-- A topic name is a topic filter without a wildcard character. -/
theorem nameFault?_eq_none_iff_filter :
    nameFault? maxLevels text = none ↔
      filterFault? maxLevels text = none ∧ '+' ∉ text.toList ∧ '#' ∉ text.toList := by
  rw [nameFault?_eq_none_iff, filterFault?_eq_none_iff]
  constructor
  · rintro ⟨nonempty, bytes, nullFree, noSingle, noMulti, few⟩
    refine ⟨⟨cutInto_levelsOf text, nonempty, bytes, nullFree,
      fun limited => few.resolve_left (by omega), ?_⟩, noSingle, noMulti⟩
    intro index within
    have member := List.getElem_mem within
    exact Or.inr (Or.inr ⟨mt (mem_of_mem_levelsOf member) noSingle,
      mt (mem_of_mem_levelsOf member) noMulti⟩)
  · rintro ⟨valid, noSingle, noMulti⟩
    refine ⟨valid.nonempty, valid.bytes, valid.nullFree, noSingle, noMulti, ?_⟩
    exact (Nat.eq_zero_or_pos maxLevels).imp_right valid.fewLevels

theorem parseFilter_eq_ok_iff {levels : List String} :
    parseFilter maxLevels text = .ok levels ↔
      filterFault? maxLevels text = none ∧ levelsOf text = levels := by
  rw [parseFilter_eq]
  cases filterFault? maxLevels text <;> simp

theorem parseName_eq_ok_iff {levels : List String} :
    parseName maxLevels text = .ok levels ↔
      nameFault? maxLevels text = none ∧ levelsOf text = levels := by
  rw [parseName_eq]
  cases nameFault? maxLevels text <;> simp

end Texts

/-- A text has its levels, parsing accepts it if it follows the grammar, and answers with them. -/
structure ParsesByGrammar (maxLevels : Nat) (text : String) : Prop where
  cut : ∃! levels, CutInto text levels
  filter_iff : ∀ levels, parseFilter maxLevels text = .ok levels ↔ IsFilter maxLevels text levels
  name_iff : ∀ levels, parseName maxLevels text = .ok levels ↔
    parseFilter maxLevels text = .ok levels ∧ '+' ∉ text.toList ∧ '#' ∉ text.toList
  filterError : ∀ error, parseFilter maxLevels text = .error error →
    ∃ fault, error = .invalidFilter fault
  nameError : ∀ error, parseName maxLevels text = .error error → ∃ fault, error = .invalidName fault

/-- Names and filters are accepted by the grammar alone, and what is both is cut alike. -/
theorem parses_by_grammar (maxLevels : Nat) (text : String) : ParsesByGrammar maxLevels text where
  cut := ⟨levelsOf text, cutInto_levelsOf text, fun _ cut => cut.levelsOf_eq.symm⟩
  filter_iff levels := by
    rw [parseFilter_eq_ok_iff, filterFault?_eq_none_iff]
    constructor
    · rintro ⟨follows, rfl⟩
      exact follows
    · intro follows
      obtain rfl := follows.cut.levelsOf_eq
      exact ⟨follows, rfl⟩
  name_iff levels := by
    rw [parseName_eq_ok_iff, parseFilter_eq_ok_iff, nameFault?_eq_none_iff_filter, and_right_comm]
  filterError error refused := by
    rw [parseFilter_eq] at refused
    split at refused
    · exact ⟨_, (Except.error.inj refused).symm⟩
    · cases refused
  nameError error refused := by
    rw [parseName_eq] at refused
    split at refused
    · exact ⟨_, (Except.error.inj refused).symm⟩
    · cases refused

example : parseFilter 4 "/é/+/" = .ok ["", "é", "+", ""] := by
  decide +kernel

end TopicBroker

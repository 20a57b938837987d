import TopicBroker.Topic.Grammar
import TopicBroker.Proofs.Trie.Selection

/-!
# Valid names and filters

Parsing answers with the first fault of a text, and with its levels if there is
none.  The levels of a valid name are plain, so a search of the subscriptions
never mistakes a level of a topic for a wildcard.  In a valid filter a `#` is
the last level, so a selection and the flat matcher agree on it.
-/

namespace TopicBroker

theorem levelsOf_injective : Function.Injective levelsOf :=
  Function.LeftInverse.injective joinLevels_levelsOf

/-- What is listed by path is listed by name, if every path can be read off its name. -/
theorem nodup_names {α β : Type} {entries : List (List String × α)}
    (distinct : (entries.map Prod.fst).Nodup) (kept : α → Option β)
    (readable : ∀ path payload item, (path, payload) ∈ entries → kept payload = some item →
      levelsOf (joinLevels path) = path) :
    ((entries.filterMap fun (path, payload) => (kept payload).map (joinLevels path, ·)).map
      Prod.fst).Nodup := by
  refine List.pairwise_map.mpr (List.pairwise_filterMap.mpr
    ((List.pairwise_map.mp distinct).imp_of_mem ?_))
  rintro ⟨first, _⟩ ⟨second, _⟩ firstListed secondListed different _ firstKept _ secondKept same
  obtain ⟨one, firstItem, rfl⟩ := Option.map_eq_some_iff.mp firstKept
  obtain ⟨other, secondItem, rfl⟩ := Option.map_eq_some_iff.mp secondKept
  have paths := congrArg levelsOf same
  rw [readable first _ one firstListed firstItem,
    readable second _ other secondListed secondItem] at paths
  exact different paths

theorem checkName_eq (maxLevels : Nat) (topic : String) :
    checkName maxLevels topic =
      match nameFault? maxLevels topic with
      | some fault => .error (.invalidName fault)
      | none => .ok () := rfl

theorem parseName_eq (maxLevels : Nat) (topic : String) :
    parseName maxLevels topic =
      match nameFault? maxLevels topic with
      | some fault => .error (.invalidName fault)
      | none => .ok (levelsOf topic) := by
  unfold parseName checkName
  cases fault : nameFault? maxLevels topic with
  | some fault => rfl
  | none =>
      have nonempty : topic ≠ "" := by
        rintro rfl
        simp [nameFault?] at fault
      simp [splitTopic, nonempty, bind, Except.bind]

theorem parseFilter_eq (maxLevels : Nat) (filter : String) :
    parseFilter maxLevels filter =
      match filterFault? maxLevels filter with
      | some fault => .error (.invalidFilter fault)
      | none => .ok (levelsOf filter) := by
  unfold parseFilter checkFilter
  cases filterFault? maxLevels filter <;> rfl

theorem checkName_eq_ok_iff {maxLevels : Nat} {topic : String} :
    checkName maxLevels topic = .ok () ↔ nameFault? maxLevels topic = none := by
  rw [checkName_eq]
  cases nameFault? maxLevels topic <;> simp

theorem checkFilter_eq_ok_iff {maxLevels : Nat} {filter : String} :
    checkFilter maxLevels filter = .ok () ↔ filterFault? maxLevels filter = none := by
  unfold checkFilter
  cases filterFault? maxLevels filter <;> simp

theorem exceedsLimit_eq_false_iff {count limit : Nat} :
    exceedsLimit count limit = false ↔ limit = 0 ∨ count ≤ limit := by
  simp only [exceedsLimit, Bool.and_eq_false_iff, decide_eq_false_iff_not]
  omega

/-- What a text must be to be a topic name. -/
theorem nameFault?_eq_none_iff {maxLevels : Nat} {topic : String} :
    nameFault? maxLevels topic = none ↔
      topic ≠ "" ∧ topic.utf8ByteSize ≤ maxTopicBytes ∧ '\x00' ∉ topic.toList ∧
        '+' ∉ topic.toList ∧ '#' ∉ topic.toList ∧
        (maxLevels = 0 ∨ (levelsOf topic).length ≤ maxLevels) := by
  rw [← exceedsLimit_eq_false_iff]
  unfold nameFault?
  split_ifs <;> grind

theorem mem_intercalate {separator piece : List Char} {pieces : List (List Char)}
    {character : Char} (pieceMember : piece ∈ pieces) (member : character ∈ piece) :
    character ∈ separator.intercalate pieces := by
  induction pieces with
  | nil => cases pieceMember
  | cons first rest ih =>
      cases rest with
      | nil =>
          have same : piece = first := List.mem_singleton.mp pieceMember
          simpa [same] using member
      | cons second others =>
          rw [List.intercalate_cons_cons]
          rcases List.mem_cons.mp pieceMember with rfl | later
          · exact List.mem_append_left _ (List.mem_append_left _ member)
          · exact List.mem_append_right _ (ih later)

theorem mem_of_mem_levelsOf {topic level : String} {character : Char} (piece : level ∈ levelsOf topic)
    (member : character ∈ level.toList) : character ∈ topic.toList := by
  obtain ⟨chunk, chunkMember, rfl⟩ := List.mem_map.mp piece
  rw [String.toList_ofList] at member
  have joined : ['/'].intercalate (topic.toList.splitOn '/') = topic.toList :=
    List.intercalate_splitOn '/'
  rw [← joined]
  exact mem_intercalate chunkMember member

/-- A valid name holds no wildcard, hence none of its levels is one. -/
theorem plainLevels_of_valid {maxLevels : Nat} {topic : String}
    (valid : nameFault? maxLevels topic = none) : PlainLevels (levelsOf topic) := by
  have noWildcard : '+' ∉ topic.toList ∧ '#' ∉ topic.toList := by
    by_contra present
    have wildcard : '+' ∈ topic.toList ∨ '#' ∈ topic.toList := by
      simpa [imp_iff_not_or] using present
    unfold nameFault? at valid
    rw [if_pos wildcard] at valid
    split_ifs at valid
  intro level member
  constructor
  · rintro rfl
    exact noWildcard.1 (mem_of_mem_levelsOf member (by decide))
  · rintro rfl
    exact noWildcard.2 (mem_of_mem_levelsOf member (by decide))

theorem multiOnlyLast_of_levelsFault? {levels : List String} (valid : levelsFault? levels = none) :
    MultiOnlyLast levels := by
  induction levels with
  | nil => trivial
  | cons level rest ih =>
      obtain ⟨here, below⟩ := Option.or_eq_none_iff.mp valid
      refine ⟨?_, ih below⟩
      rintro rfl
      have wildcard : '#' ∈ LevelPattern.multiText.toList := by decide
      by_contra more
      simp [levelFault?, wildcard, more] at here

/-- In a valid filter nothing follows the level that stands for all remaining ones. -/
theorem multiOnlyLast_of_valid {maxLevels : Nat} {filter : String}
    (valid : filterFault? maxLevels filter = none) : MultiOnlyLast (levelsOf filter) := by
  apply multiOnlyLast_of_levelsFault?
  unfold filterFault? at valid
  split_ifs at valid
  exact valid

end TopicBroker

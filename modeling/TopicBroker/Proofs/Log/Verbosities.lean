import TopicBroker.Log.Verbosity

/-!
# How verbosities are written

A verbosity is written as its word in either case, or as its position between nothing and
everything, in decimal digits that a plus may precede.  No text is both, because the digits and the
plus are the same in lowercase and no word contains one of them.
-/

namespace TopicBroker

namespace Text

theorem isDigit_of_digitValue? {character : Char}
    (valued : (digitValue? 10 character).isSome = true) : isDigit character = true := by
  obtain ⟨value, found⟩ := Option.isSome_iff_exists.mp valued
  obtain ⟨reads, small⟩ := Option.filter_eq_some_iff.mp found
  have below : value < 10 := of_decide_eq_true small
  split at reads
  case isTrue digit => simpa [isDigit] using digit
  case isFalse =>
    -- A letter stands for ten at least.
    split at reads
    case isTrue =>
      cases reads
      omega
    case isFalse =>
      split at reads
      case isTrue =>
        cases reads
        omega
      case isFalse => cases reads

theorem isSome_of_foldlM {read : Nat → Char → Option Nat} {value number : Nat} {text : List Char}
    (reads : text.foldlM read value = some number) :
    ∀ character ∈ text, ∃ value, (read value character).isSome = true := by
  induction text generalizing value with
  | nil => simp
  | cons first rest ih =>
      rw [List.foldlM_cons] at reads
      obtain ⟨next, isNext, reads⟩ := Option.bind_eq_some_iff.mp reads
      exact List.forall_mem_cons.mpr ⟨⟨value, by rw [isNext]; rfl⟩, ih reads⟩

theorem isDigit_of_mem_numeral {number : Nat} {digits : List Char}
    (reads : numeral? 10 digits = some number) :
    ∀ character ∈ digits, isDigit character = true := by
  unfold numeral? numeralUpTo? at reads
  split at reads
  case isTrue => cases reads
  case isFalse =>
    intro character member
    obtain ⟨value, next⟩ := isSome_of_foldlM reads character member
    rw [Option.isSome_map] at next
    exact isDigit_of_digitValue? next

/-- Whether a character may stand in an unsigned number. -/
def inUnsigned (character : Char) : Bool := character = '+' || isDigit character

theorem inUnsigned_of_mem {number : Nat} {text : List Char} (reads : unsigned? text = some number) :
    ∀ character ∈ text, inUnsigned character = true := by
  unfold unsigned? at reads
  split at reads
  · refine List.forall_mem_cons.mpr ⟨rfl, fun character member => ?_⟩
    simp [inUnsigned, isDigit_of_mem_numeral reads character member]
  · intro character member
    simp [inUnsigned, isDigit_of_mem_numeral reads character member]

theorem toLower_of_inUnsigned {character : Char} (inside : inUnsigned character = true) :
    character.toLower = character := by
  simp only [inUnsigned, Bool.or_eq_true, decide_eq_true_eq] at inside
  rcases inside with rfl | digit
  · rfl
  · simp only [isDigit, Bool.and_eq_true, decide_eq_true_eq] at digit
    have small : character.toNat ≤ 57 := digit.2
    unfold Char.toLower
    refine dif_neg fun upper => ?_
    have great : 65 ≤ character.toNat := UInt32.le_iff_toNat_le.mp upper.1
    omega

end Text

namespace Verbosity

/-- A verbosity is written as its word in either case, or as its position. -/
def IsWritten (verbosity : Verbosity) (text : List Char) : Prop :=
  Text.asciiLower text = verbosity.name.toList ∨
    ∃ position, Text.unsigned? text = some position ∧ all[position]? = some verbosity

variable {verbosity : Verbosity} {text : List Char}

theorem name_ne_nil (verbosity : Verbosity) : verbosity.name.toList ≠ [] := by
  rcases verbosity with _ | level
  · decide
  · cases level <;> decide

/-- No character of a word may stand in a number or in front of a level. -/
theorem outside_of_mem_name {character : Char} (member : character ∈ verbosity.name.toList) :
    character ≠ '=' ∧ Text.inUnsigned character = false := by
  have outside : (verbosity.name.toList.all fun character =>
      character ≠ '=' ∧ Text.inUnsigned character = false) = true := by
    rcases verbosity with _ | level
    · decide
    · cases level <;> decide
  exact of_decide_eq_true (List.all_eq_true.mp outside character member)

theorem find?_name (verbosity : Verbosity) :
    (all.find? fun other => other.name.toList = verbosity.name.toList) = some verbosity := by
  rcases verbosity with _ | level
  · decide +kernel
  · cases level <;> decide +kernel

theorem unsigned?_of_word (word : Text.asciiLower text = verbosity.name.toList) :
    Text.unsigned? text = none := by
  rw [Option.eq_none_iff_forall_ne_some]
  intro number reads
  have inside := Text.inUnsigned_of_mem reads
  have same : Text.asciiLower text = text := by
    rw [Text.asciiLower, List.map_congr_left fun character member =>
      Text.toLower_of_inUnsigned (inside character member), List.map_id']
  rw [same] at word
  obtain ⟨character, member⟩ := List.exists_mem_of_ne_nil _ (name_ne_nil verbosity)
  have outside := (outside_of_mem_name member).2
  rw [inside character (word ▸ member)] at outside
  cases outside

theorem parse?_eq_some_iff : parse? text = some verbosity ↔ verbosity.IsWritten text := by
  rw [parse?, Option.or_eq_some_iff, Option.bind_eq_some_iff]
  constructor
  · rintro (⟨position, reads, at?⟩ | ⟨-, found⟩)
    · exact .inr ⟨position, reads, at?⟩
    · have spelled : verbosity.name.toList = Text.asciiLower text := by
        simpa using List.find?_some found
      exact .inl spelled.symm
  · rintro (word | ⟨position, reads, found⟩)
    · rw [word, unsigned?_of_word word]
      exact .inr ⟨rfl, find?_name verbosity⟩
    · exact .inl ⟨position, reads, found⟩

theorem IsWritten.notMem (written : verbosity.IsWritten text) : '=' ∉ text := by
  intro member
  rcases written with word | ⟨position, reads, -⟩
  · have inWord : '=' ∈ verbosity.name.toList :=
      word ▸ List.mem_map_of_mem (f := Char.toLower) member
    exact (outside_of_mem_name inWord).1 rfl
  · exact absurd (Text.inUnsigned_of_mem reads '=' member) (by decide)

theorem not_isWritten_nil (verbosity : Verbosity) : ¬ verbosity.IsWritten [] := by
  rintro (word | ⟨position, reads, -⟩)
  · exact name_ne_nil verbosity word.symm
  · cases reads

end Verbosity

end TopicBroker

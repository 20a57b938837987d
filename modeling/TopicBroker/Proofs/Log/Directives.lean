import Mathlib.Data.List.TakeWhile
import TopicBroker.Log.Directive
import TopicBroker.Proofs.Log.Verbosities

/-!
# The grammar of directives without a scope

A part of a log filter that has no bracket in it is a directive if it is a level, a target, or a
target with a level behind an equals sign.  The reader cuts the part at positions in bytes that it
finds in the part without its blanks.  Those are positions of the part itself only if no
blank stands in front, and otherwise the equals sign goes into the text of the level, which is
refused.  So blanks never get between a target and its level.
-/

namespace TopicBroker

namespace Text

/-- The blanks of all kinds, as ranges with both ends included. -/
def allBlanks : List (Nat × Nat) := (0x20, 0x20) :: (0x9, 0xD) :: blankRanges

/-- The letters and numbers of all scripts, as ranges with both ends included. -/
def allAlphanumerics : List (Nat × Nat) :=
  (0x30, 0x39) :: (0x41, 0x5A) :: (0x61, 0x7A) :: alphanumericRanges

theorem ranges_apart :
    ∀ blank ∈ allBlanks, ∀ range ∈ allAlphanumerics, blank.2 < range.1 ∨ range.2 < blank.1 := by
  decide +kernel

theorem inRanges_iff {ranges : List (Nat × Nat)} {character : Char} :
    inRanges ranges character = true ↔
      ∃ range ∈ ranges, range.1 ≤ character.toNat ∧ character.toNat ≤ range.2 := by
  simp [inRanges]

theorem inRanges_of_isBlank {character : Char} (blank : isBlank character = true) :
    inRanges allBlanks character = true := by
  simp only [isBlank, Bool.or_eq_true, decide_eq_true_eq, Bool.and_eq_true] at blank
  rcases blank with (rfl | low) | ranged
  · rfl
  · exact inRanges_iff.mpr ⟨(0x9, 0xD), by simp [allBlanks], low⟩
  · obtain ⟨range, member, inside⟩ := inRanges_iff.mp ranged
    exact inRanges_iff.mpr ⟨range, by simp [allBlanks, member], inside⟩

theorem inRanges_of_isAlphanumeric {character : Char} (counted : isAlphanumeric character = true) :
    inRanges allAlphanumerics character = true := by
  have between {first last : UInt32}
      (inside : (decide (first ≤ character.val) && decide (character.val ≤ last)) = true) :
      first.toNat ≤ character.toNat ∧ character.toNat ≤ last.toNat := by
    obtain ⟨above, below⟩ := Bool.and_eq_true_iff.mp inside
    exact ⟨of_decide_eq_true above, of_decide_eq_true below⟩
  rcases Bool.or_eq_true_iff.mp counted with ascii | ranged
  · rcases Bool.or_eq_true_iff.mp ascii with letter | digit
    · rcases Bool.or_eq_true_iff.mp letter with upper | lower
      · exact inRanges_iff.mpr ⟨(0x41, 0x5A), by simp [allAlphanumerics], of_decide_eq_true upper⟩
      · exact inRanges_iff.mpr ⟨(0x61, 0x7A), by simp [allAlphanumerics], between lower⟩
    · exact inRanges_iff.mpr ⟨(0x30, 0x39), by simp [allAlphanumerics], between digit⟩
  · obtain ⟨range, member, inside⟩ := inRanges_iff.mp ranged
    exact inRanges_iff.mpr ⟨range, by simp [allAlphanumerics, member], inside⟩

theorem isBlank_of_isAlphanumeric {character : Char} (counted : isAlphanumeric character = true) :
    isBlank character = false := by
  rw [Bool.eq_false_iff]
  intro blank
  obtain ⟨first, isFirst, within⟩ := inRanges_iff.mp (inRanges_of_isBlank blank)
  obtain ⟨second, isSecond, inside⟩ := inRanges_iff.mp (inRanges_of_isAlphanumeric counted)
  have apart := ranges_apart first isFirst second isSecond
  omega

end Text

namespace Directive

section Cutting

variable {before after text : List Char} {position : Nat}

@[simp]
theorem byteSize_nil : byteSize [] = 0 := rfl

@[simp]
theorem byteSize_cons (first : Char) (rest : List Char) :
    byteSize (first :: rest) = first.utf8Size + byteSize rest := by
  simp [byteSize]

@[simp]
theorem byteSize_append (first second : List Char) :
    byteSize (first ++ second) = byteSize first + byteSize second := by
  simp [byteSize]

/-- Cutting a text is the inverse of joining two texts, the first of which has the given size. -/
theorem cutAt?_eq_some_iff :
    cutAt? position text = some (before, after) ↔
      before ++ after = text ∧ byteSize before = position := by
  fun_induction cutAt? position text generalizing before after with
  | case1 text =>
      cases before with
      | nil => simp [eq_comm]
      | cons first rest => simp [Nat.ne_of_gt first.utf8Size_pos]
  | case2 position =>
      cases before <;> simp
  | case3 position first rest fits ih =>
      cases before with
      | nil => simp
      | cons head before =>
          simp only [Option.map_eq_some_iff, Prod.exists, ih, Prod.mk.injEq, List.cons.injEq,
            List.cons_append, byteSize_cons]
          constructor
          · rintro ⟨cut, behind, ⟨joined, size⟩, ⟨rfl, rfl⟩, rfl⟩
            exact ⟨⟨rfl, joined⟩, by omega⟩
          · rintro ⟨⟨rfl, joined⟩, size⟩
            exact ⟨before, after, ⟨joined, by omega⟩, ⟨rfl, rfl⟩, rfl⟩
  | case4 position first rest fits =>
      cases before with
      | nil => simp
      | cons head before =>
          simp only [reduceCtorEq, List.cons_append, List.cons.injEq, byteSize_cons, false_iff]
          rintro ⟨⟨rfl, joined⟩, size⟩
          omega

theorem cutAt?_append (before after : List Char) :
    cutAt? (byteSize before) (before ++ after) = some (before, after) :=
  cutAt?_eq_some_iff.mpr ⟨rfl, rfl⟩

theorem piece?_append (before after : List Char) :
    piece? 0 (byteSize before) (before ++ after) = some (String.ofList before) := by
  simp [piece?, cutAt?, cutAt?_append]

end Cutting

section Trimming

variable {part rest : List Char} {first : Char}

theorem dropWhile_append_cons {passed : Char → Bool} (stays : passed first = false)
    (before after : List Char) :
    (before ++ first :: after).dropWhile passed = before.dropWhile passed ++ first :: after := by
  induction before with
  | nil => simp [stays]
  | cons head before ih => by_cases goes : passed head = true <;> simp [goes, ih]

theorem trimmed_append_cons (stays : Text.isBlank first = false) (before after : List Char) :
    trimmed (before ++ first :: after) =
      before.dropWhile Text.isBlank ++
        first :: (after.reverse.dropWhile Text.isBlank).reverse := by
  rw [trimmed, dropWhile_append_cons stays, List.reverse_append, List.reverse_cons,
    List.append_assoc, List.singleton_append, dropWhile_append_cons stays]
  simp

theorem head?_trimmed (part : List Char) :
    (trimmed part).head? = (part.dropWhile Text.isBlank).head? := by
  rw [trimmed]
  cases left : part.dropWhile Text.isBlank with
  | nil => rfl
  | cons first rest =>
      have stays : Text.isBlank first = false := by
        have nonempty : part.dropWhile Text.isBlank ≠ [] := by simp [left]
        simpa [left] using List.head_dropWhile_not Text.isBlank nonempty
      rw [List.reverse_cons, dropWhile_append_cons stays]
      simp

theorem mem_of_mem_trimmed {character : Char} (member : character ∈ trimmed part) :
    character ∈ part := by
  have inner := (List.dropWhile_suffix _).mem (List.mem_reverse.mp member)
  exact (List.dropWhile_suffix _).mem (List.mem_reverse.mp inner)

end Trimming

/-- The first character of a part that is no blank may begin a directive. -/
def Begins (part : List Char) : Prop :=
  (part.dropWhile Text.isBlank).head?.any startsDirective = true

/-- How a part is read: how much is reported, and for which target if it names one. -/
inductive Reads : List Char → Option String → Verbosity → Prop
  /-- A level alone is for all targets. -/
  | level {part : List Char} {verbosity : Verbosity} (begins : Begins part)
      (written : verbosity.IsWritten part) : Reads part none verbosity
  /-- Everything is reported for a target alone. -/
  | target {part : List Char} (begins : Begins part) (single : '=' ∉ part)
      (noLevel : ∀ verbosity : Verbosity, ¬ verbosity.IsWritten part) :
      Reads part (some (String.ofList part)) .full
  /-- No blank stands in front of a target with a level, and no level stands for everything. -/
  | both {first : Char} {rest level : List Char} {verbosity : Verbosity}
      (starts : startsDirective first = true) (single : '=' ∉ first :: rest)
      (written : level = [] ∧ verbosity = .full ∨ verbosity.IsWritten level) :
      Reads (first :: rest ++ '=' :: level) (some (String.ofList (first :: rest))) verbosity

section Reading

variable {part target level : List Char} {directive : Directive}

theorem isBlank_of_startsDirective {first : Char} (starts : startsDirective first = true) :
    Text.isBlank first = false := by
  simp only [startsDirective, Bool.or_eq_true, decide_eq_true_eq] at starts
  rcases starts with (((rfl | rfl) | rfl) | rfl) | counted
  · decide +kernel
  · decide +kernel
  · decide +kernel
  · decide +kernel
  · exact Text.isBlank_of_isAlphanumeric counted

theorem parse?_of_not_begins (noBegin : ¬ Begins part) : parse? part = none := by
  rw [Begins, ← head?_trimmed] at noBegin
  unfold parse?
  cases found : (trimmed part).head? with
  | none => simp only [found]; rfl
  | some first =>
      have refused : startsDirective first = false := by simpa [found] using noBegin
      simp only [found, Option.map_some, refused]
      rfl

theorem begins_of_parse? (isRead : parse? part = some directive) : Begins part := by
  by_contra noBegin
  rw [parse?_of_not_begins noBegin] at isRead
  cases isRead

theorem exists_of_begins (begins : Begins part) :
    ∃ first, (trimmed part).head? = some first ∧ startsDirective first = true := by
  rw [Begins, ← head?_trimmed] at begins
  cases found : (trimmed part).head? with
  | none => simp [found] at begins
  | some first => exact ⟨first, rfl, by simpa [found] using begins⟩

/-- Whether a character goes on with a target. -/
def inTarget (character : Char) : Bool := !(decide (character = '=') || decide (character = '['))

theorem inTarget_of_mem {character : Char} {text : List Char} (noScope : '[' ∉ text)
    (single : '=' ∉ text) (member : character ∈ text) : inTarget character = true := by
  simp [inTarget, ne_of_mem_of_not_mem member single, ne_of_mem_of_not_mem member noScope]

theorem parse?_of_notMem (begins : Begins part) (noScope : '[' ∉ part) (single : '=' ∉ part) :
    parse? part = some (bare part) := by
  have only : (trimmed part).dropWhile inTarget = [] := by
    rw [List.dropWhile_eq_nil_iff]
    exact fun character member => inTarget_of_mem noScope single (mem_of_mem_trimmed member)
  obtain ⟨first, found, starts⟩ := exists_of_begins begins
  unfold inTarget at only
  simp only [parse?, found, Option.map_some, starts, only]
  rfl

theorem parse?_append_equals (begins : Begins (target ++ '=' :: level)) (noScope : '[' ∉ target)
    (single : '=' ∉ target) :
    parse? (target ++ '=' :: level) =
      (piece? 0 (byteSize (target.dropWhile Text.isBlank))
        (target ++ '=' :: level)).bind fun text =>
      (verbosityFrom? (byteSize (target.dropWhile Text.isBlank) + 1)
        (target ++ '=' :: level)).bind fun verbosity =>
      some ⟨some text, none, none, verbosity⟩ := by
  have inside : ∀ character ∈ target.dropWhile Text.isBlank, inTarget character = true :=
    fun character member =>
      inTarget_of_mem noScope single ((List.dropWhile_suffix _).mem member)
  have ends : inTarget '=' = false := rfl
  obtain ⟨first, found, starts⟩ := exists_of_begins begins
  have text := trimmed_append_cons (by decide +kernel : Text.isBlank '=' = false) target level
  have taken : (trimmed (target ++ '=' :: level)).takeWhile inTarget =
      target.dropWhile Text.isBlank := by
    rw [text, List.takeWhile_append_of_pos inside, List.takeWhile_cons, ends]
    simp
  have left : (trimmed (target ++ '=' :: level)).dropWhile inTarget =
      '=' :: (level.reverse.dropWhile Text.isBlank).reverse := by
    rw [text, List.dropWhile_append_of_pos inside, List.dropWhile_cons, ends]
    simp
  unfold inTarget at taken left
  simp only [parse?, found, Option.map_some, starts, taken, left]
  rfl

theorem verbosityFrom?_append (target level : List Char) :
    verbosityFrom? (byteSize target + 1) (target ++ '=' :: level) =
      if level.isEmpty then some .full else Verbosity.parse? level := by
  have cut : cutAt? (byteSize target + 1) (target ++ '=' :: level) =
      some (target ++ ['='], level) := by
    rw [cutAt?_eq_some_iff]
    exact ⟨List.append_assoc target ['='] level, byteSize_append target ['=']⟩
  simp only [verbosityFrom?, cut]
  rfl

/-- A text that begins before the equals sign is no level. -/
theorem verbosityFrom?_of_early {position : Nat} (early : position ≤ byteSize target) :
    verbosityFrom? position (target ++ '=' :: level) = none := by
  rw [Option.eq_none_iff_forall_ne_some]
  intro verbosity reads
  obtain ⟨⟨before, after⟩, cut, asks⟩ := Option.bind_eq_some_iff.mp reads
  obtain ⟨joined, size⟩ := cutAt?_eq_some_iff.mp cut
  have equals : '=' ∈ after := by
    rcases List.append_eq_append_iff.mp joined with ⟨between, rfl, rfl⟩ | ⟨between, rfl, behind⟩
    · simp
    · cases between with
      | nil =>
          rw [List.nil_append] at behind
          exact behind ▸ List.mem_cons_self
      | cons first between =>
          have positive := first.utf8Size_pos
          rw [byteSize_append, byteSize_cons] at size
          omega
  dsimp only at asks
  split at asks
  case isTrue empty => simp [List.isEmpty_iff.mp empty] at equals
  case isFalse => exact (Verbosity.parse?_eq_some_iff.mp asks).notMem equals

theorem begins_cons {first : Char} (starts : startsDirective first = true) (rest : List Char) :
    Begins (first :: rest) := by
  simp [Begins, isBlank_of_startsDirective starts, starts]

theorem parse?_of_startsDirective {first : Char} {rest : List Char}
    (starts : startsDirective first = true) (noScope : '[' ∉ first :: rest)
    (single : '=' ∉ first :: rest) (level : List Char) :
    parse? (first :: rest ++ '=' :: level) =
      (if level.isEmpty then some .full else Verbosity.parse? level).map fun verbosity =>
        ⟨some (String.ofList (first :: rest)), none, none, verbosity⟩ := by
  have kept : (first :: rest).dropWhile Text.isBlank = first :: rest := by
    simp [isBlank_of_startsDirective starts]
  rw [parse?_append_equals (begins_cons starts _) noScope single, kept, piece?_append,
    verbosityFrom?_append, Option.bind_some, Option.map_eq_bind]
  rfl

/-- With a blank in front, the equals sign counts as part of the level. -/
theorem parse?_of_isBlank {first : Char} {rest : List Char} (blank : Text.isBlank first = true)
    (noScope : '[' ∉ first :: rest) (single : '=' ∉ first :: rest) (level : List Char) :
    parse? (first :: rest ++ '=' :: level) = none := by
  by_cases begins : Begins (first :: rest ++ '=' :: level)
  case neg => exact parse?_of_not_begins begins
  case pos =>
    have early : byteSize ((first :: rest).dropWhile Text.isBlank) + 1 ≤
        byteSize (first :: rest) := by
      obtain ⟨dropped, split⟩ := List.dropWhile_suffix Text.isBlank (l := rest)
      have sizes := byteSize_append dropped (rest.dropWhile Text.isBlank)
      have positive := first.utf8Size_pos
      rw [split] at sizes
      rw [List.dropWhile_cons_of_pos blank, byteSize_cons]
      omega
    rw [parse?_append_equals begins noScope single, verbosityFrom?_of_early early]
    cases piece? 0 _ _ <;> rfl

theorem verbosity_eq_some_iff {verbosity : Verbosity} :
    (if level.isEmpty then some .full else Verbosity.parse? level) = some verbosity ↔
      level = [] ∧ verbosity = .full ∨ verbosity.IsWritten level := by
  cases level with
  | nil => simp [verbosity.not_isWritten_nil, eq_comm]
  | cons first rest => simp [Verbosity.parse?_eq_some_iff]

/-- A part without an equals sign is a level or a target. -/
theorem reads_bare (begins : Begins part) (single : '=' ∉ part) :
    ∃ target verbosity, bare part = ⟨target, none, none, verbosity⟩ ∧
      Reads part target verbosity := by
  cases asks : Verbosity.parse? part with
  | none =>
      have noLevel (verbosity : Verbosity) : ¬ verbosity.IsWritten part := by
        rw [← Verbosity.parse?_eq_some_iff, asks]
        rintro ⟨⟩
      exact ⟨_, _, by simp only [bare, asks], .target begins single noLevel⟩
  | some verbosity =>
      exact ⟨_, _, by simp only [bare, asks],
        .level begins (Verbosity.parse?_eq_some_iff.mp asks)⟩

theorem not_begins_equals (level : List Char) : ¬ Begins ('=' :: level) := by
  have stays : Text.isBlank '=' = false := by decide +kernel
  have refused : startsDirective '=' = false := by decide +kernel
  simp [Begins, stays, refused]

/-- What is read with an equals sign is a target and a level, with no blank in front. -/
theorem exists_reads_of_equals (noScope : '[' ∉ target) (single : '=' ∉ target)
    (isRead : parse? (target ++ '=' :: level) = some directive) :
    ∃ named verbosity, directive = ⟨named, none, none, verbosity⟩ ∧
      Reads (target ++ '=' :: level) named verbosity := by
  have begins := begins_of_parse? isRead
  cases target with
  | nil => exact absurd begins (not_begins_equals level)
  | cons first rest =>
      by_cases blank : Text.isBlank first = true
      case pos =>
        rw [parse?_of_isBlank blank noScope single] at isRead
        cases isRead
      case neg =>
        have starts : startsDirective first = true := by simpa [Begins, blank] using begins
        rw [parse?_of_startsDirective starts noScope single, Option.map_eq_some_iff] at isRead
        obtain ⟨verbosity, asks, rfl⟩ := isRead
        exact ⟨_, _, rfl, .both starts single (verbosity_eq_some_iff.mp asks)⟩

theorem parse?_of_reads {named : Option String} {verbosity : Verbosity} (noScope : '[' ∉ part)
    (reads : Reads part named verbosity) : parse? part = some ⟨named, none, none, verbosity⟩ := by
  cases reads with
  | level begins written =>
      rw [parse?_of_notMem begins noScope written.notMem, bare,
        Verbosity.parse?_eq_some_iff.mpr written]
  | target begins single noLevel =>
      have asks : Verbosity.parse? part = none := by
        rw [Option.eq_none_iff_forall_ne_some]
        exact fun verbosity asks => noLevel verbosity (Verbosity.parse?_eq_some_iff.mp asks)
      rw [parse?_of_notMem begins noScope single, bare, asks]
  | both starts single written =>
      have noScopeInTarget := fun member => noScope (List.mem_append_left _ member)
      rw [parse?_of_startsDirective starts noScopeInTarget single,
        verbosity_eq_some_iff.mpr written, Option.map_some]

/-- The parts without a scope are read by their grammar. -/
theorem parse?_eq_some_iff (noScope : '[' ∉ part) :
    parse? part = some directive ↔ ∃ target verbosity,
      directive = ⟨target, none, none, verbosity⟩ ∧ Reads part target verbosity := by
  constructor
  · intro isRead
    by_cases equals : '=' ∈ part
    case neg =>
      have begins := begins_of_parse? isRead
      rw [parse?_of_notMem begins noScope equals] at isRead
      cases isRead
      exact reads_bare begins equals
    case pos =>
      obtain ⟨target, level, rfl, single⟩ := List.eq_append_cons_of_mem equals
      have noScopeInTarget := fun member => noScope (List.mem_append_left _ member)
      exact exists_reads_of_equals noScopeInTarget single isRead
  · rintro ⟨target, verbosity, rfl, reads⟩
    exact parse?_of_reads noScope reads

end Reading

end Directive

end TopicBroker

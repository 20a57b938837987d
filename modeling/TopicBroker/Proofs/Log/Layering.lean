import Mathlib.Data.List.Induction
import TopicBroker.Proofs.Log.Directives
import TopicBroker.Settings.Basic

/-!
# Log filters are layered over a level

The text of a log filter is the name of a level, followed by the directives that are given beside
it.  No name of a level contains a comma, so the parts of this text are the name and then
the parts of what is given, whatever commas that begins or ends with.

Directives that are applied without looking at spans form a list in a strict order.  On such
directives the order is lexicographic, and two of them are equal in it if they are for
the same target and field.  So adding a directive splits the list into those before it, one that
it replaces if there is one, and those behind it, and adding several of them leaves
the last one in each place.  The level is added first, hence it remains unless a
directive without a target is given.
-/

namespace TopicBroker

namespace Directive

/-- What a directive that is applied without looking at spans asks for. -/
def place (directive : Directive) : Option String × Option String :=
  (directive.target, directive.field.map FieldCondition.name)

/-- The order of directives as far as it concerns those that are applied without looking at
spans. -/
def plainOrder : Directive → Directive → Ordering :=
  compareLex (compareOn fun directive => directive.target.map String.utf8ByteSize)
    (compareLex (compareOn fun directive => directive.field.isSome)
      (compareLex (compareOn Directive.target)
        (compareOn fun directive => directive.field.map FieldCondition.name)))

instance : Std.TransCmp plainOrder :=
  inferInstanceAs (Std.TransCmp (compareLex _ _))

section Order

variable {first second : Directive}

theorem plainOrder_eq_iff : plainOrder first second = .eq ↔ first.place = second.place := by
  simp only [plainOrder, compareLex, compareOn, Ordering.then_eq_eq,
    Std.LawfulEqCmp.compare_eq_iff_eq, place, Prod.mk.injEq]
  constructor
  · rintro ⟨-, -, sameTarget, sameField⟩
    exact ⟨sameTarget, sameField⟩
  · rintro ⟨sameTarget, sameField⟩
    have given := congrArg Option.isSome sameField
    rw [Option.isSome_map, Option.isSome_map] at given
    exact ⟨congrArg _ sameTarget, given, sameTarget, sameField⟩

theorem order_of_isPlain (isFirst : first.isPlain = true) (isSecond : second.isPlain = true) :
    first.order second = plainOrder first second := by
  obtain ⟨target, span, field, verbosity⟩ := first
  obtain ⟨target', span', field', verbosity'⟩ := second
  simp only [isPlain, Bool.and_eq_true, Option.isNone_iff_eq_none] at isFirst isSecond
  obtain ⟨rfl, noValue⟩ := isFirst
  obtain ⟨rfl, noValue'⟩ := isSecond
  simp only [order, plainOrder, compareLex, compareOn, Ordering.then_assoc]
  -- A field is compared by its name, since neither of the two has a value.
  rcases field with _ | ⟨name, _ | value⟩ <;> rcases field' with _ | ⟨name', _ | value'⟩
  case none.some.some | some.none.some.some => cases noValue'
  case some.some.none | some.some.some.none | some.some.some.some => cases noValue
  case some.none.some.none =>
    simp only [FieldCondition.order, Ordering.then_eq]
    rfl
  all_goals rfl

end Order

end Directive

namespace LogFilter

/-- Directives that are applied without looking at spans, those that ask for more before those that
ask for less, and no two for the same place. -/
structure Placed (directives : List Directive) : Prop where
  isPlain : ∀ directive ∈ directives, directive.isPlain = true
  ordered : directives.Pairwise fun first second => first.plainOrder second = .gt

section Inserting

variable {directive : Directive} {directives : List Directive}

theorem Placed.nil : Placed [] := ⟨by simp, .nil⟩

/-- A directive goes between those that ask for more and those that ask for less, and what has stood
there is for the same place. -/
theorem Placed.exists_split (placed : Placed directives) (plain : directive.isPlain = true) :
    ∃ before old after, directives = before ++ old ++ after ∧
      insertInto directive directives = before ++ directive :: after ∧
      (∀ other ∈ before, other.plainOrder directive = .gt) ∧
      (∀ other ∈ old, other.place = directive.place) ∧
      ∀ other ∈ after, directive.plainOrder other = .gt := by
  obtain ⟨isPlain, ordered⟩ := placed
  induction directives with
  | nil => exact ⟨[], [], [], rfl, rfl, by simp⟩
  | cons head rest ih =>
      obtain ⟨headMore, restOrdered⟩ := List.pairwise_cons.mp ordered
      have order := Directive.order_of_isPlain plain (isPlain head List.mem_cons_self)
      cases compared : directive.plainOrder head with
      | eq =>
          refine ⟨[], [head], rest, rfl, by simp [insertInto, order, compared], by simp, ?_, ?_⟩
          · simpa using (Directive.plainOrder_eq_iff.mp compared).symm
          · intro other member
            rw [Std.TransCmp.congr_left compared]
            exact headMore other member
      | gt =>
          refine ⟨[], [], head :: rest, rfl, by simp [insertInto, order, compared], by simp,
            by simp, ?_⟩
          intro other member
          rcases List.mem_cons.mp member with rfl | inRest
          · exact compared
          · exact Std.TransCmp.gt_trans compared (headMore other inRest)
      | lt =>
          obtain ⟨before, old, after, same, inserted, more, replaced, less⟩ :=
            ih (fun other member => isPlain other (List.mem_cons_of_mem _ member)) restOrdered
          refine ⟨head :: before, old, after, by simp [same],
            by simp [insertInto, order, compared, inserted], ?_, replaced, less⟩
          exact List.forall_mem_cons.mpr ⟨Std.OrientedCmp.gt_of_lt compared, more⟩

theorem Placed.insertInto (placed : Placed directives) (plain : directive.isPlain = true) :
    Placed (insertInto directive directives) := by
  obtain ⟨before, old, after, rfl, inserted, more, -, less⟩ := placed.exists_split plain
  rw [inserted]
  constructor
  · intro other member
    rcases List.mem_append.mp member with first | last
    · exact placed.isPlain other (by simp [first])
    · rcases List.mem_cons.mp last with rfl | last
      · exact plain
      · exact placed.isPlain other (by simp [last])
  · obtain ⟨beforeOrdered, afterOrdered, apart⟩ := List.pairwise_append.mp placed.ordered
    refine List.pairwise_append.mpr ⟨(List.pairwise_append.mp beforeOrdered).1,
      List.pairwise_cons.mpr ⟨less, afterOrdered⟩, fun first isFirst second isSecond => ?_⟩
    rcases List.mem_cons.mp isSecond with rfl | isAfter
    · exact more first isFirst
    · exact Std.TransCmp.gt_trans (more first isFirst) (less second isAfter)

/-- A directive replaces the one in its place, and no other. -/
theorem Placed.filter_insertInto (placed : Placed directives) (plain : directive.isPlain = true)
    (place : Option String × Option String) :
    (LogFilter.insertInto directive directives).filter (·.place = place) =
      if directive.place = place then [directive] else directives.filter (·.place = place) := by
  obtain ⟨before, old, after, rfl, inserted, more, replaced, less⟩ := placed.exists_split plain
  rw [inserted, List.filter_append, List.filter_append, List.filter_append]
  by_cases here : directive.place = place
  · subst here
    have noneBefore : before.filter (·.place = directive.place) = [] := by
      simp only [List.filter_eq_nil_iff, decide_eq_true_eq, ← Directive.plainOrder_eq_iff]
      intro other member
      simp [more other member]
    have noneAfter : after.filter (·.place = directive.place) = [] := by
      simp only [List.filter_eq_nil_iff, decide_eq_true_eq, eq_comm (b := directive.place),
        ← Directive.plainOrder_eq_iff]
      intro other member
      simp [less other member]
    simp [noneBefore, noneAfter]
  · have others : old.filter (·.place = place) = [] := by
      rw [List.filter_eq_nil_iff]
      intro other member
      simpa [replaced other member] using here
    simp [others, here]

end Inserting

/-- The filter to which directives are added one after another. -/
def ofDirectives (directives : List Directive) : LogFilter := directives.foldl insert ⟨[], []⟩

section Collecting

variable {directives : List Directive}

theorem ofDirectives_append_singleton (directives : List Directive) (directive : Directive) :
    ofDirectives (directives ++ [directive]) = (ofDirectives directives).insert directive := by
  rw [ofDirectives, List.foldl_append]
  rfl

theorem placed_ofDirectives (directives : List Directive) :
    Placed (ofDirectives directives).plain := by
  induction directives using List.reverseRecOn with
  | nil => exact .nil
  | append_singleton directives directive ih =>
      rw [ofDirectives_append_singleton, insert]
      dsimp only
      split
      case isTrue plain => exact ih.insertInto plain
      case isFalse => exact ih

/-- In every place stands the last directive for it. -/
theorem filter_ofDirectives (directives : List Directive) (place : Option String × Option String) :
    (ofDirectives directives).plain.filter (·.place = place) =
      (directives.filter fun directive =>
        directive.isPlain && directive.place = place).getLast?.toList := by
  induction directives using List.reverseRecOn with
  | nil => rfl
  | append_singleton directives directive ih =>
      rw [ofDirectives_append_singleton, insert, List.filter_append]
      dsimp only
      split
      case isTrue plain =>
        rw [(placed_ofDirectives directives).filter_insertInto plain, ih]
        by_cases here : directive.place = place <;> simp [plain, here]
      case isFalse spanwise => simp [spanwise, ih]

theorem mem_of_mem_plain {directive : Directive}
    (member : directive ∈ (ofDirectives directives).plain) : directive ∈ directives := by
  have inPlace : directive ∈
      (ofDirectives directives).plain.filter (·.place = directive.place) := by
    simp [member]
  rw [filter_ofDirectives, Option.mem_toList] at inPlace
  exact (List.mem_filter.mp (List.mem_of_getLast? inPlace)).1

theorem spanwise_eq_nil (unscoped : ∀ directive ∈ directives, directive.isScoped = false) :
    (ofDirectives directives).spanwise = [] := by
  induction directives using List.reverseRecOn with
  | nil => rfl
  | append_singleton directives directive ih =>
      have noScope : directive.isScoped = false := unscoped directive (by simp)
      rw [ofDirectives_append_singleton, insert]
      simp only [noScope, Bool.false_eq_true, if_false]
      exact ih fun other member => unscoped other (List.mem_append_left _ member)

end Collecting

section Parsing

variable {text : List Char} {filter : LogFilter}

theorem mapM_eq_some_iff {α β : Type} {read : α → Option β} {items : List α} {results : List β} :
    items.mapM read = some results ↔
      (∀ item ∈ items, (read item).isSome = true) ∧ items.filterMap read = results := by
  induction items generalizing results with
  | nil => simp
  | cons item items ih =>
      rw [List.mapM_cons, Option.bind_eq_bind, Option.bind_eq_some_iff]
      constructor
      · rintro ⟨result, reads, both⟩
        obtain ⟨others, fromItems, same⟩ := Option.bind_eq_some_iff.mp both
        obtain ⟨allRead, rfl⟩ := ih.mp fromItems
        cases same
        exact ⟨List.forall_mem_cons.mpr ⟨by simp [reads], allRead⟩, List.filterMap_cons_some reads⟩
      · rintro ⟨allRead, rfl⟩
        obtain ⟨itemRead, allRead⟩ := List.forall_mem_cons.mp allRead
        obtain ⟨result, reads⟩ := Option.isSome_iff_exists.mp itemRead
        refine ⟨result, reads, ?_⟩
        rw [ih.mpr ⟨allRead, rfl⟩, List.filterMap_cons_some reads]
        rfl

theorem parse?_eq_some_iff :
    parse? text = some filter ↔
      (∀ part ∈ parts text, (Directive.parse? part).isSome = true) ∧
        ofDirectives ((parts text).filterMap Directive.parse?) = filter := by
  simp only [parse?, Option.bind_eq_bind, Option.bind_eq_some_iff, mapM_eq_some_iff,
    Option.pure_def, Option.some.injEq]
  constructor
  · rintro ⟨directives, ⟨allRead, rfl⟩, rfl⟩
    exact ⟨allRead, rfl⟩
  · rintro ⟨allRead, rfl⟩
    exact ⟨_, ⟨allRead, rfl⟩, rfl⟩

theorem parts_of_notMem {first : List Char} (given : first ≠ []) (whole : ',' ∉ first) :
    parts first = [first] := by
  simp [parts, List.splitOn_eq_singleton whole, given]

/-- The comma in between never merges with commas at the start of what follows. -/
theorem parts_append {first : List Char} (given : first ≠ []) (whole : ',' ∉ first)
    (rest : List Char) : parts (first ++ ',' :: rest) = first :: parts rest := by
  have cut : (first ++ ',' :: rest).splitOn ',' = first.splitOn ',' ++ rest.splitOn ',' :=
    List.splitOnP_append_cons first rest (by simp)
  simp [parts, cut, List.splitOn_eq_singleton whole, given]

end Parsing

end LogFilter

/-- The directive that a level stands for. -/
def Directive.ofLevel (level : LogLevel) : Directive := ⟨none, none, none, .upTo level⟩

/-- Whether a directive is for a target, or for all targets without one, in every scope. -/
def Directive.isFor (target : Option String) (directive : Directive) : Bool :=
  directive.target = target && !directive.isScoped

namespace LogFilter

/-- The non-empty parts of the directives that are given beside a level. -/
def givenParts (further : Option String) : List (List Char) := parts (further.getD "").toList

/-- The directives that are given beside a level. -/
def given (further : Option String) : List Directive :=
  (givenParts further).filterMap Directive.parse?

/-- The last one of some directives that is for a target. -/
def lastFor? (target : Option String) (directives : List Directive) : Option Directive :=
  (directives.filter (Directive.isFor target)).getLast?

section Layering

variable {level : String} {further : Option String}

theorem parse?_name (level : LogLevel) :
    Directive.parse? level.name.toList = some (.ofLevel level) := by
  have noScope : '[' ∉ level.name.toList := by cases level <;> decide +kernel
  have begins : Directive.Begins level.name.toList := by
    unfold Directive.Begins
    cases level <;> decide +kernel
  have word : (Verbosity.upTo level).IsWritten level.name.toList := by
    refine .inl ?_
    cases level <;> decide +kernel
  exact Directive.parse?_of_reads noScope (.level begins word)

theorem parts_layeredText (level : String) (further : Option String) :
    parts (layeredText level further).toList =
      (LogLevel.parse level).name.toList :: givenParts further := by
  have named : (LogLevel.parse level).name.toList ≠ [] := by cases LogLevel.parse level <;> decide
  have whole : ',' ∉ (LogLevel.parse level).name.toList := by cases LogLevel.parse level <;> decide
  have alone : parts (LogLevel.parse level).name.toList =
      (LogLevel.parse level).name.toList :: givenParts none := parts_of_notMem named whole
  rcases further with _ | directives
  · exact alone
  · rw [layeredText]
    split
    case isTrue empty =>
      rw [empty]
      exact alone
    case isFalse =>
      rw [String.toList_append, String.toList_append, List.append_assoc]
      exact parts_append named whole directives.toList

theorem layered_eq_ok_iff {filter : LogFilter} :
    layered level further = .ok filter ↔
      (∀ part ∈ givenParts further, (Directive.parse? part).isSome = true) ∧
        ofDirectives (.ofLevel (LogLevel.parse level) :: given further) = filter := by
  have named : layered level further = .ok filter ↔ layered? level further = some filter := by
    rw [layered]
    cases layered? level further <;> simp
  rw [named, layered?, parse?_eq_some_iff, parts_layeredText, List.forall_mem_cons,
    List.filterMap_cons_some (parse?_name _), parse?_name, Option.isSome_some, given]
  simp only [true_and]

theorem layered_eq_error_iff {error : SettingsError} :
    layered level further = .error error ↔
      (∃ part ∈ givenParts further, Directive.parse? part = none) ∧
        error = .invalid (.malformedLogFilter (layeredText level further)) := by
  by_cases allRead : ∀ part ∈ givenParts further, (Directive.parse? part).isSome = true
  case pos =>
    rw [layered_eq_ok_iff.mpr ⟨allRead, rfl⟩]
    constructor
    · rintro ⟨⟩
    · rintro ⟨⟨part, member, malformed⟩, -⟩
      simpa [malformed] using allRead part member
  case neg =>
    have refused : layered? level further = none := by
      rw [Option.eq_none_iff_forall_ne_some]
      intro filter reads
      have accepted : layered level further = .ok filter := by rw [layered, reads]
      exact allRead (layered_eq_ok_iff.mp accepted).1
    have malformed : ∃ part ∈ givenParts further, Directive.parse? part = none := by
      simpa using allRead
    rw [layered, refused, and_iff_right malformed, Except.error.injEq, eq_comm]

theorem isFor_eq (target : Option String) (directive : Directive) :
    directive.isFor target = (directive.isPlain && directive.place = (target, none)) := by
  obtain ⟨named, span, field, verbosity⟩ := directive
  cases span <;> cases field <;>
    simp [Directive.isFor, Directive.isPlain, Directive.place, Directive.isScoped]

theorem filter_isFor (target : Option String) (directives : List Directive) :
    (ofDirectives directives).plain.filter (Directive.isFor target) =
      (lastFor? target directives).toList := by
  have inPlace : (ofDirectives directives).plain.filter (Directive.isFor target) =
      (ofDirectives directives).plain.filter (·.place = (target, none)) := by
    apply List.filter_congr
    intro directive member
    rw [isFor_eq, (placed_ofDirectives directives).isPlain directive member, Bool.true_and]
  rw [inPlace, filter_ofDirectives, lastFor?, funext (isFor_eq target)]

end Layering

/-- The filter of a level and of directives that are given beside it: it is refused exactly if a
part of what is given is no directive, and otherwise the directives that are given stand over the
level, the last one for each target. -/
structure LayersOver (level : String) (further : Option String) : Prop where
  /-- A part without a bracket is a directive by the grammar. -/
  reads (part : List Char) (member : part ∈ givenParts further) (noScope : '[' ∉ part)
    (directive : Directive) :
    Directive.parse? part = some directive ↔ ∃ target verbosity,
      directive = ⟨target, none, none, verbosity⟩ ∧ Directive.Reads part target verbosity
  refuses (error : SettingsError) : layered level further = .error error ↔
    (∃ part ∈ givenParts further, Directive.parse? part = none) ∧
      error = .invalid (.malformedLogFilter (layeredText level further))
  targets (filter : LogFilter) (accepted : layered level further = .ok filter) (target : String) :
    filter.plain.filter (Directive.isFor (some target)) =
      (lastFor? (some target) (given further)).toList
  withoutTarget (filter : LogFilter) (accepted : layered level further = .ok filter) :
    filter.plain.filter (Directive.isFor none) =
      [(lastFor? none (given further)).getD (.ofLevel (LogLevel.parse level))]
  unscoped (filter : LogFilter) (accepted : layered level further = .ok filter)
    (noScope : ∀ part ∈ givenParts further, '[' ∉ part) :
    filter.spanwise = [] ∧ ∀ directive ∈ filter.plain, directive.isScoped = false
  alone (nothing : further.getD "" = "") :
    layered level further = .ok ⟨[.ofLevel (LogLevel.parse level)], []⟩

/-- Whatever the further directives are, they are laid over the level in this way. -/
theorem layers_over_level (level : String) (further : Option String) :
    LayersOver level further where
  reads part _ noScope directive := Directive.parse?_eq_some_iff noScope
  refuses error := layered_eq_error_iff
  targets filter accepted target := by
    obtain ⟨-, rfl⟩ := layered_eq_ok_iff.mp accepted
    rw [filter_isFor]
    rfl
  withoutTarget filter accepted := by
    obtain ⟨-, rfl⟩ := layered_eq_ok_iff.mp accepted
    rw [filter_isFor, lastFor?, List.filter_cons_of_pos rfl, List.getLast?_cons]
    rfl
  unscoped filter accepted noScope := by
    obtain ⟨-, rfl⟩ := layered_eq_ok_iff.mp accepted
    have plain : ∀ directive ∈ .ofLevel (LogLevel.parse level) :: given further,
        directive.isScoped = false := by
      rw [List.forall_mem_cons]
      refine ⟨rfl, fun directive member => ?_⟩
      obtain ⟨part, isPart, reads⟩ := List.mem_filterMap.mp member
      obtain ⟨target, verbosity, rfl, -⟩ :=
        (Directive.parse?_eq_some_iff (noScope part isPart)).mp reads
      rfl
    exact ⟨spanwise_eq_nil plain, fun directive member => plain directive (mem_of_mem_plain member)⟩
  alone nothing := by
    have noParts : givenParts further = [] := by
      rw [givenParts, nothing]
      rfl
    rw [layered_eq_ok_iff, given, noParts]
    exact ⟨by simp, rfl⟩

example :
    (layered "Info" (some ",a=1,b,,a=WARN,")).toOption.map render = some "b=trace,a=warn,info" := by
  decide +kernel

end LogFilter

end TopicBroker

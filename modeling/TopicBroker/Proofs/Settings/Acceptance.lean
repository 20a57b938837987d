import Mathlib.Data.List.Forall2
import TopicBroker.Broker.Exchange
import TopicBroker.Settings.Loading

/-!
# What accepted settings mean

Settings are checked once, whichever way they were read.  Those that pass the
check mean to the broker what they say: no value is replaced on the way to the
broker's settings, and none is corrected later.

The check and the log read the name of a level in two different ways.  One
changes the case of ASCII letters only, the other takes the lowercase form of
every character.  They agree on all texts, because no other character has an
ASCII letter in its lowercase form but two, and neither of these can stand in
the name of a level.
-/

namespace TopicBroker

namespace Text

/-- A form that a character may have in lowercase, as far as ASCII letters are concerned.  Outside
ASCII only the dotted capital `I` and the Kelvin sign have an ASCII letter in it. -/
inductive LowerForm : Char → List Char → Prop
  | ascii {character : Char} (ascii : character.toNat < 128) :
      LowerForm character [character.toLower]
  | dotted : LowerForm '\u0130' ['i', '\u0307']
  | kelvin : LowerForm '\u212A' ['k']
  | other {character : Char} {form : List Char} (notAscii : 128 ≤ character.toNat)
      (present : form ≠ []) (noLetter : ∀ letter ∈ form, letter.isAlpha = false) :
      LowerForm character form

/-- The second text is the first one in lowercase, as far as ASCII letters are concerned. -/
def Lowers (text lowered : List Char) : Prop :=
  ∃ forms, List.Forall₂ LowerForm text forms ∧ lowered = forms.flatten

variable {character : Char} {text lowered form : List Char}

theorem toLower_of_notAscii (notAscii : 128 ≤ character.toNat) :
    character.toLower = character := by
  unfold Char.toLower
  refine dif_neg fun upper => ?_
  have bound : character.toNat ≤ 90 := UInt32.le_iff_toNat_le.mp upper.2
  omega

theorem ascii_of_isAlpha (letter : character.isAlpha = true) : character.toNat < 128 := by
  have either : character.isUpper = true ∨ character.isLower = true :=
    Bool.or_eq_true_iff.mp letter
  rcases either with upper | lower
  · have bound : character.toNat ≤ 90 := UInt32.le_iff_toNat_le.mp (of_decide_eq_true upper).2
    omega
  · have within : decide ('a'.val ≤ character.val) = true ∧ decide (character.val ≤ 'z'.val) = true :=
      Bool.and_eq_true_iff.mp lower
    have bound : character.toNat ≤ 122 := UInt32.le_iff_toNat_le.mp (of_decide_eq_true within.2)
    omega

theorem lowerForm_lowerCharacter (character : Char) :
    LowerForm character (lowerCharacter character) := by
  unfold lowerCharacter
  split
  case isTrue dotted =>
    have same : character = '\u0130' := Char.toNat_inj.mp dotted
    exact same ▸ .dotted
  case isFalse =>
    split
    case isTrue kelvin =>
      have same : character = '\u212A' := Char.toNat_inj.mp kelvin
      exact same ▸ .kelvin
    case isFalse =>
      by_cases ascii : character.toNat < 128
      · exact .ascii ascii
      · have notAscii : 128 ≤ character.toNat := Nat.le_of_not_lt ascii
        rw [toLower_of_notAscii notAscii]
        refine .other notAscii (List.cons_ne_nil _ _) fun letter member => ?_
        rw [List.mem_singleton.mp member, ← Bool.not_eq_true]
        exact fun isLetter => ascii (ascii_of_isAlpha isLetter)

theorem lowers_lower (text : List Char) : Lowers text (lower text) := by
  refine ⟨text.map lowerCharacter, ?_, ?_⟩
  · rw [List.forall₂_map_right_iff, List.forall₂_same]
    exact fun character _ => lowerForm_lowerCharacter character
  · rw [lower, List.flatMap_def]

/-- A letter that the name of a level may have.  Both characters outside ASCII that have a letter in
their lowercase form have something else in it, too, or the letter `k`, which no level has. -/
def InLevel (letter : Char) : Prop := letter.isAlpha = true ∧ letter ≠ 'k'

/-- A character that is read as letters of a level is read by changing its case alone. -/
theorem LowerForm.eq_toLower (lowers : LowerForm character form)
    (letters : (∀ letter ∈ form, InLevel letter) ∨ InLevel character.toLower) :
    form = [character.toLower] := by
  have ascii (notAscii : 128 ≤ character.toNat) : ¬ InLevel character.toLower := by
    rw [toLower_of_notAscii notAscii]
    exact fun letter => absurd (ascii_of_isAlpha letter.1) (Nat.not_lt.mpr notAscii)
  cases lowers with
  | ascii => rfl
  | dotted =>
      have outside : InLevel '\u0307' := letters.elim (· _ (by simp)) (absurd · (ascii (by decide)))
      exact absurd outside.1 (by decide)
  | kelvin =>
      have outside : InLevel 'k' := letters.elim (· _ (by simp)) (absurd · (ascii (by decide)))
      exact absurd rfl outside.2
  | other notAscii present noLetter =>
      obtain ⟨letter, member⟩ := List.exists_mem_of_ne_nil form present
      have outside : InLevel letter := letters.elim (· _ member) (absurd · (ascii notAscii))
      exact absurd outside.1 (by simp [noLetter letter member])

theorem Lowers.eq_asciiLower (lowers : Lowers text lowered)
    (plain : (∀ letter ∈ lowered, InLevel letter) ∨
      ∀ letter ∈ asciiLower text, InLevel letter) : lowered = asciiLower text := by
  obtain ⟨forms, lowers, rfl⟩ := lowers
  induction lowers with
  | nil => rfl
  | @cons character form text forms first _ ih =>
      have head : form = [character.toLower] := by
        apply first.eq_toLower
        rcases plain with plain | plain
        · exact Or.inl fun letter member => plain letter (by simp [member])
        · exact Or.inr (plain character.toLower (by simp [asciiLower]))
      have tail : forms.flatten = asciiLower text := by
        apply ih
        rcases plain with plain | plain
        · exact Or.inl fun letter member => plain letter (by simp [member])
        · exact Or.inr fun letter member => plain letter (by simp_all [asciiLower])
      rw [List.flatten_cons, head, tail]
      rfl

end Text

namespace LogLevel

theorem inLevel_of_mem_name {level : LogLevel} {letter : Char}
    (member : letter ∈ level.name.toList) : Text.InLevel letter := by
  have all : level.name.toList.all (fun letter => letter.isAlpha ∧ letter ≠ 'k') = true := by
    cases level <;> decide
  have here := List.all_eq_true.mp all letter member
  rwa [decide_eq_true_eq] at here

theorem mem_all (level : LogLevel) : level ∈ all := by
  cases level <;> decide

theorem name_injective {first second : LogLevel} (same : first.name = second.name) :
    first = second := by
  cases first <;> cases second <;> first | rfl | exact absurd same (by decide)

theorem ofName?_eq_some_iff {name : String} {level : LogLevel} :
    ofName? name = some level ↔ level.name = name := by
  constructor
  · intro found
    simpa using List.find?_some found
  · rintro rfl
    cases found : ofName? level.name with
    | none =>
        have missed := List.find?_eq_none.mp found level (mem_all level)
        simp at missed
    | some other =>
        have same : other.name = level.name := by simpa using List.find?_some found
        rw [name_injective same]

/-- For the name of a level it makes no difference which characters outside ASCII change. -/
theorem name_eq_iff {text lowered : List Char} (lowers : Text.Lowers text lowered)
    (level : LogLevel) :
    level.name.toList = lowered ↔ level.name.toList = Text.asciiLower text := by
  constructor
  · intro named
    rw [named]
    exact lowers.eq_asciiLower (Or.inl (named ▸ fun _ => inLevel_of_mem_name))
  · intro named
    rw [named]
    exact (lowers.eq_asciiLower (Or.inr (named ▸ fun _ => inLevel_of_mem_name))).symm

/-- The log reads a level exactly if only the case of its letters has to be changed. -/
theorem ofName?_lower_eq_some_iff {text : String} {level : LogLevel} :
    ofName? (String.ofList (Text.lower text.toList)) = some level ↔
      level.name.toList = Text.asciiLower text.toList := by
  rw [ofName?_eq_some_iff, ← name_eq_iff (Text.lowers_lower text.toList) level, String.ext_iff,
    String.toList_ofList]

end LogLevel

namespace Settings

theorem namesLevel_iff {text : String} : namesLevel text = true ↔
    ∃ level : LogLevel, level.name.toList = Text.asciiLower text.toList := by
  simp [namesLevel, LogLevel.mem_all]

/-- How the name of a level is checked and read, whatever the lowercase forms of characters are that
have no ASCII letter in them. -/
structure ReadsLevel (text : String) : Prop where
  lowers : Text.Lowers text.toList (Text.lower text.toList)
  accepts : ∀ lowered, Text.Lowers text.toList lowered →
    (namesLevel text = true ↔ ∃ level : LogLevel, level.name.toList = lowered)
  reads : ∀ lowered, Text.Lowers text.toList lowered →
    ∀ level : LogLevel, level.name.toList = lowered → LogLevel.parse text = level
  otherwise : namesLevel text = false → LogLevel.parse text = .warn

theorem parse_of_named {text : String} {level : LogLevel}
    (named : level.name.toList = Text.asciiLower text.toList) : LogLevel.parse text = level := by
  rw [LogLevel.parse, LogLevel.ofName?_lower_eq_some_iff.mpr named]
  rfl

theorem readsLevel (text : String) : ReadsLevel text where
  lowers := Text.lowers_lower text.toList
  accepts lowered lowers := by
    rw [namesLevel_iff]
    exact exists_congr fun level => (LogLevel.name_eq_iff lowers level).symm
  reads lowered lowers level named := parse_of_named ((LogLevel.name_eq_iff lowers level).mp named)
  otherwise unnamed := by
    rw [LogLevel.parse]
    cases found : LogLevel.ofName? (String.ofList (Text.lower text.toList)) with
    | none => rfl
    | some level =>
        have named := namesLevel_iff.mpr ⟨level, LogLevel.ofName?_lower_eq_some_iff.mp found⟩
        rw [unnamed] at named
        cases named

/-- The ways in which settings come to be used. -/
inductive Accepted (settings : Settings) : Prop
  | parsed (document : String) (accepted : parse document = .ok settings)
  | loaded (file : SettingsFile) (environment : Environment)
      (accepted : load file environment = .ok settings)
  | fromEnvironment (environment : Environment)
      (accepted : Settings.fromEnvironment environment = .ok settings)

/-- The broker does what the settings say. -/
structure Faithful (settings : Settings) : Prop where
  guarantee : settings.maxQos ≤ 2
  maxQos : Qos.ofNat? settings.maxQos = some settings.toBroker.maxQos
  retainAvailable : settings.toBroker.retainAvailable = settings.retainAvailable
  maxTopicLevels : settings.toBroker.maxTopicLevels = settings.maxTopicLevels
  maxQueuedMessages : settings.toBroker.maxQueuedMessages = settings.maxQueuedMessages
  outletCapacity : settings.toBroker.outletCapacity = settings.outletCapacity
  room : 1 ≤ settings.outletCapacity
  outlet : (Exchange.start settings.toBroker).configuredOutlet =
    ⟨some settings.outletCapacity, [], false⟩
  level : ∃ level : LogLevel, level.name.toList = Text.asciiLower settings.logLevel.toList ∧
    LogLevel.parse settings.logLevel = level

variable {settings accepted : Settings}

theorem fault?_eq_none_iff : settings.fault? = none ↔
    settings.maxQos ≤ 2 ∧ namesLevel settings.logLevel = true ∧ 1 ≤ settings.outletCapacity := by
  unfold fault?
  rw [← Nat.not_lt, Nat.one_le_iff_ne_zero]
  split
  case isTrue outOfRange => simp [outOfRange]
  case isFalse inRange =>
    split
    case isTrue unnamed => simp_all
    case isFalse named =>
      split <;> simp_all

theorem validate_eq_ok_iff :
    settings.validate = .ok accepted ↔ settings.fault? = none ∧ accepted = settings := by
  unfold validate
  cases settings.fault? with
  | none => simp [eq_comm]
  | some fault => simp

/-- What all sources together come to before it is read as settings. -/
def gathered (written : List (String × Toml.Value)) (environment : Environment) : Toml.Value :=
  layer (layer standardSource written) environment.overrides

theorem load_eq (file : SettingsFile) (environment : Environment) :
    load file environment =
      match fileSource environment file with
      | .error error => .error error
      | .ok written =>
        match Conversion.lenient.settings? (gathered written environment) with
        | none => .error .inconvertible
        | some settings => settings.validate := by
  unfold load
  cases fileSource environment file <;> rfl

/-- Whichever way settings are read, they are checked in the end. -/
theorem fault?_of_accepted (accepted : settings.Accepted) : settings.fault? = none := by
  have checked {read : Settings} (passed : read.validate = .ok settings) :
      settings.fault? = none := by
    obtain ⟨faultless, rfl⟩ := validate_eq_ok_iff.mp passed
    exact faultless
  have loaded (file : SettingsFile) (environment : Environment)
      (accepted : load file environment = .ok settings) : settings.fault? = none := by
    rw [load_eq] at accepted
    split at accepted
    · cases accepted
    · split at accepted
      · cases accepted
      · exact checked accepted
  cases accepted with
  | parsed document accepted =>
      unfold parse at accepted
      split at accepted
      · cases accepted
      · exact checked accepted
  | loaded file environment accepted => exact loaded file environment accepted
  | fromEnvironment environment accepted => exact loaded .absent environment accepted

theorem faithful_of_fault? (faultless : settings.fault? = none) : settings.Faithful := by
  obtain ⟨guarantee, named, room⟩ := fault?_eq_none_iff.mp faultless
  obtain ⟨level, named⟩ := namesLevel_iff.mp named
  have known : ∃ qos, Qos.ofNat? settings.maxQos = some qos := by
    have cases : settings.maxQos = 0 ∨ settings.maxQos = 1 ∨ settings.maxQos = 2 := by omega
    rcases cases with zero | one | two
    · exact ⟨_, by rw [zero]; rfl⟩
    · exact ⟨_, by rw [one]; rfl⟩
    · exact ⟨_, by rw [two]; rfl⟩
  obtain ⟨qos, known⟩ := known
  constructor
  case guarantee => exact guarantee
  case maxQos => rw [toBroker, known]; rfl
  case room => exact room
  case outlet =>
      change Outlet.channel settings.outletCapacity = _
      rw [Outlet.channel, Nat.max_eq_left room]
  case level => exact ⟨level, named, parse_of_named named⟩
  all_goals rfl

/-- Settings that are accepted reach the broker and the log as they were written, and each name of a
level is read as this level. -/
theorem maps_faithfully :
    (∀ settings : Settings, settings.Accepted → settings.Faithful) ∧ ∀ text, ReadsLevel text :=
  ⟨fun _ accepted => faithful_of_fault? (fault?_of_accepted accepted), readsLevel⟩

/-- The level is written in capitals, and the strongest guarantee is not the default one. -/
theorem maps_faithfully_of_capitals :
    ∃ settings, parse "[log]\nlevel = \"DEBUG\"\n[mqtt]\nmax_qos = 1\n" = .ok settings ∧
      settings.Faithful := by
  have accepted : (parse "[log]\nlevel = \"DEBUG\"\n[mqtt]\nmax_qos = 1\n").toOption.isSome := by
    decide +kernel
  cases read : parse "[log]\nlevel = \"DEBUG\"\n[mqtt]\nmax_qos = 1\n" with
  | error _ =>
      rw [read] at accepted
      cases accepted
  | ok settings =>
      exact ⟨settings, rfl, maps_faithfully.1 settings (.parsed _ read)⟩

end Settings

end TopicBroker

import TopicBroker.Settings.Loading

/-!
# Placeholders are replaced in one pass

A text is cut into pieces from left to right: where it goes on with a
placeholder, the whole placeholder is cut off, and otherwise a single character
is.  There is exactly one way to do so, and it depends on the text alone.
Putting values in place of the placeholders leaves the characters between them
as they are, so neither a value nor a default is ever looked into.
-/

namespace TopicBroker

namespace Placeholder

/-- A piece that is cut off a text. -/
inductive Piece where
  | plain (character : Char)
  /-- A placeholder with a name, and with a default or without one. -/
  | placeholder (name : List Char) (standard? : Option (List Char))
  deriving DecidableEq, Repr

namespace Piece

def written : Piece → List Char
  | plain character => [character]
  | placeholder name none => '$' :: '\x7b' :: (name ++ ['\x7d'])
  | placeholder name (some standard) =>
    '$' :: '\x7b' :: (name ++ ':' :: '-' :: (standard ++ ['\x7d']))

theorem written_ne_nil (piece : Piece) : piece.written ≠ [] := by
  rcases piece with _ | ⟨name, _ | standard⟩ <;> simp [written]

/-- What stands in place of a piece in the end: for a placeholder the value of the variable if it is
set, else the default, else nothing. -/
def filled (value? : List Char → Option (List Char)) : Piece → List Char
  | plain character => [character]
  | placeholder name standard? => (value? name).getD (standard?.getD [])

/-- The name is not empty and holds neither a closing brace nor a colon, and the default holds no
closing brace. -/
def IsPlaceholder : Piece → Prop
  | plain _ => False
  | placeholder name standard? =>
    name ≠ [] ∧ (∀ character ∈ name, character ≠ '\x7d' ∧ character ≠ ':') ∧
      ∀ standard ∈ standard?, ∀ character ∈ standard, character ≠ '\x7d'

end Piece

/-- The text goes on with a placeholder. -/
def Starts (text : List Char) : Prop :=
  ∃ piece : Piece, piece.IsPlaceholder ∧ piece.written <+: text

/-- The pieces that are cut off a text from left to right. -/
inductive Cut : List Char → List Piece → Prop
  | done : Cut [] []
  | placeholder {piece : Piece} {rest : List Char} {pieces : List Piece}
      (found : piece.IsPlaceholder) (others : Cut rest pieces) :
      Cut (piece.written ++ rest) (piece :: pieces)
  | plain {first : Char} {rest : List Char} {pieces : List Piece}
      (vain : ¬ Starts (first :: rest)) (others : Cut rest pieces) :
      Cut (first :: rest) (.plain first :: pieces)

section Occurrences

variable {text rest name : List Char} {standard? : Option (List Char)}

theorem takeWhile_dropWhile_of_stop {α : Type} {inside : α → Bool} {run : List α} {stop : α}
    (inRun : ∀ element ∈ run, inside element = true) (stops : inside stop = false)
    (rest : List α) :
    (run ++ stop :: rest).takeWhile inside = run ∧
      (run ++ stop :: rest).dropWhile inside = stop :: rest := by
  have stopsHere : ¬ inside stop = true := by simp [stops]
  rw [List.takeWhile_append_of_pos inRun, List.dropWhile_append_of_pos inRun,
    List.takeWhile_cons_of_neg stopsHere, List.dropWhile_cons_of_neg stopsHere, List.append_nil]
  exact ⟨rfl, rfl⟩

/-- The name ends with the first character that it must not hold. -/
theorem occurrence?_of_stop {stop : Char} (named : name ≠ [])
    (inName : ∀ character ∈ name, character ≠ '\x7d' ∧ character ≠ ':')
    (stops : Placeholder.inName stop = false) :
    occurrence? (name ++ stop :: rest) = ending? name (stop :: rest) := by
  have run : ∀ character ∈ name, Placeholder.inName character = true := by
    intro character member
    simpa [Placeholder.inName] using inName character member
  obtain ⟨taken, dropped⟩ := takeWhile_dropWhile_of_stop run stops rest
  rw [occurrence?, taken, dropped, if_neg (by simp [named])]

theorem placeholder?_written (found : (Piece.placeholder name standard?).IsPlaceholder)
    (rest : List Char) :
    placeholder? ((Piece.placeholder name standard?).written ++ rest) =
      some ⟨name, standard?.getD [], rest⟩ := by
  obtain ⟨named, inName, noBrace⟩ := found
  cases standard? with
  | none =>
      simp only [Piece.written, List.cons_append, List.append_assoc, List.nil_append, placeholder?]
      exact occurrence?_of_stop named inName rfl
  | some standard =>
      have run : ∀ character ∈ standard, inDefault character = true := by
        intro character member
        simpa [inDefault] using noBrace standard rfl character member
      have stops : inDefault '\x7d' = false := rfl
      obtain ⟨taken, dropped⟩ := takeWhile_dropWhile_of_stop run stops rest
      simp only [Piece.written, List.cons_append, List.append_assoc, List.nil_append, placeholder?]
      rw [occurrence?_of_stop named inName rfl]
      simp only [ending?, taken, dropped]
      rfl

theorem eq_brace_of_dropWhile {stop : Char}
    (dropped : text.dropWhile inDefault = stop :: rest) : stop = '\x7d' := by
  have outside : inDefault stop = false := by
    simpa [dropped] using List.head?_dropWhile_not inDefault text
  simpa [inDefault] using outside

/-- What is found is what the text begins with. -/
theorem exists_of_placeholder? {found : Occurrence} (starts : placeholder? text = some found) :
    ∃ standard?, (Piece.placeholder found.name standard?).IsPlaceholder ∧
      text = (Piece.placeholder found.name standard?).written ++ found.rest := by
  unfold placeholder? at starts
  split at starts
  case h_2 => cases starts
  case h_1 tail =>
    unfold occurrence? at starts
    split at starts
    case isTrue => cases starts
    case isFalse named =>
      have whole := List.takeWhile_append_dropWhile (p := inName) (l := tail)
      have inName : ∀ character ∈ tail.takeWhile inName, character ≠ '\x7d' ∧ character ≠ ':' := by
        intro character member
        simpa [Placeholder.inName] using List.all_eq_true.mp List.all_takeWhile character member
      rw [List.isEmpty_iff] at named
      unfold ending? at starts
      split at starts
      case h_1 rest stopped =>
        cases starts
        refine ⟨none, ⟨named, inName, by simp⟩, ?_⟩
        rw [stopped] at whole
        simp [Piece.written, whole]
      case h_2 standard stopped =>
        split at starts
        case h_2 => cases starts
        case h_1 stop rest closed =>
          cases starts
          have inside := List.takeWhile_append_dropWhile (p := inDefault) (l := standard)
          rw [closed, eq_brace_of_dropWhile closed] at inside
          refine ⟨some (standard.takeWhile inDefault), ⟨named, inName, ?_⟩, ?_⟩
          · rintro _ ⟨⟩ character member
            simpa [inDefault] using List.all_eq_true.mp List.all_takeWhile character member
          · rw [stopped, ← inside] at whole
            simp [Piece.written, whole]
      case h_3 => cases starts

theorem starts_iff : Starts text ↔ ∃ found, placeholder? text = some found := by
  constructor
  · rintro ⟨_ | ⟨name, standard?⟩, isPlaceholder, rest, rfl⟩
    · exact isPlaceholder.elim
    · exact ⟨_, placeholder?_written isPlaceholder rest⟩
  · rintro ⟨found, starts⟩
    obtain ⟨standard?, isPlaceholder, begins⟩ := exists_of_placeholder? starts
    exact ⟨_, isPlaceholder, found.rest, begins.symm⟩

/-- A text begins with one placeholder at most. -/
theorem written_append_inj {piece other : Piece} {rest behind : List Char}
    (found : piece.IsPlaceholder) (foundToo : other.IsPlaceholder)
    (same : piece.written ++ rest = other.written ++ behind) : piece = other ∧ rest = behind := by
  rcases piece with _ | ⟨name, standard?⟩
  · exact found.elim
  rcases other with _ | ⟨otherName, other?⟩
  · exact foundToo.elim
  have first := placeholder?_written found rest
  rw [same, placeholder?_written foundToo behind] at first
  injection first with occurrences
  injection occurrences with names standards rests
  subst names rests
  refine ⟨?_, rfl⟩
  rw [List.append_cancel_right_eq] at same
  -- With and without an empty default the same text would stand for the placeholder.
  cases standard? <;> cases other? <;> simp_all [Piece.written]

end Occurrences

section Scan

variable {text : List Char} {pieces : List Piece}

theorem exists_cut (text : List Char) : ∃ pieces, Cut text pieces := by
  match text with
  | [] => exact ⟨[], .done⟩
  | first :: rest =>
    by_cases starts : Starts (first :: rest)
    · obtain ⟨piece, found, behind, begins⟩ := starts
      have shorter : behind.length < (first :: rest).length := by
        have nonempty := List.length_pos_iff.mpr piece.written_ne_nil
        rw [← begins, List.length_append]
        omega
      obtain ⟨pieces, others⟩ := exists_cut behind
      exact ⟨piece :: pieces, begins ▸ .placeholder found others⟩
    · obtain ⟨pieces, others⟩ := exists_cut rest
      exact ⟨.plain first :: pieces, .plain starts others⟩
termination_by text.length
decreasing_by
  · exact shorter
  · exact Nat.lt_succ_self rest.length

theorem Cut.of_placeholder {piece : Piece} {rest : List Char} (found : piece.IsPlaceholder)
    (cut : Cut (piece.written ++ rest) pieces) :
    ∃ others, pieces = piece :: others ∧ Cut rest others := by
  generalize whole : piece.written ++ rest = text at cut
  cases cut with
  | done => exact absurd (List.append_eq_nil_iff.mp whole).1 piece.written_ne_nil
  | placeholder foundToo others =>
      obtain ⟨rfl, rfl⟩ := written_append_inj found foundToo whole
      exact ⟨_, rfl, others⟩
  | plain vain _ => exact absurd ⟨piece, found, rest, whole⟩ vain

theorem Cut.of_vain {first : Char} {rest : List Char} (vain : ¬ Starts (first :: rest))
    (cut : Cut (first :: rest) pieces) :
    ∃ others, pieces = .plain first :: others ∧ Cut rest others := by
  generalize whole : first :: rest = text at cut vain
  cases cut with
  | done => cases whole
  | placeholder found _ => exact absurd ⟨_, found, List.prefix_append ..⟩ vain
  | plain _ others =>
      cases whole
      exact ⟨_, rfl, others⟩

theorem Cut.of_nil (cut : Cut [] pieces) : pieces = [] := by
  generalize whole : [] = text at cut
  cases cut with
  | done => rfl
  | @placeholder piece _ _ _ _ =>
      exact absurd (List.append_eq_nil_iff.mp whole.symm).1 piece.written_ne_nil
  | plain => cases whole

theorem Cut.unique (cut : Cut text pieces) {others : List Piece} (again : Cut text others) :
    others = pieces := by
  induction cut generalizing others with
  | done => exact again.of_nil
  | placeholder found _ ih =>
      obtain ⟨others, rfl, rest⟩ := again.of_placeholder found
      rw [ih rest]
  | plain vain _ ih =>
      obtain ⟨others, rfl, rest⟩ := again.of_vain vain
      rw [ih rest]

theorem Cut.written (cut : Cut text pieces) : pieces.flatMap Piece.written = text := by
  induction cut with
  | done => rfl
  | placeholder _ _ ih => rw [List.flatMap_cons, ih]
  | plain _ _ ih => rw [List.flatMap_cons, ih]; rfl

theorem Cut.filled (cut : Cut text pieces) (value? : List Char → Option (List Char)) :
    substitute value? text = pieces.flatMap (Piece.filled value?) := by
  induction cut with
  | done => exact substitute_nil value?
  | @placeholder piece rest pieces found _ ih =>
      rcases piece with _ | ⟨name, standard?⟩
      · exact found.elim
      · rw [substitute_of_placeholder value? (placeholder?_written found rest), ih]
        rfl
  | @plain first rest pieces vain _ ih =>
      have noPlaceholder : placeholder? (first :: rest) = none := by
        rw [Option.eq_none_iff_forall_ne_some]
        intro found starts
        exact vain (starts_iff.mpr ⟨found, starts⟩)
      rw [substitute_cons value? noPlaceholder, ih]
      rfl

/-- Without placeholders a text is cut into its characters. -/
theorem Cut.plain_of_none (cut : Cut text pieces)
    (none : ∀ behind, behind <:+ text → ¬ Starts behind) : pieces = text.map Piece.plain := by
  induction cut with
  | done => rfl
  | @placeholder piece rest pieces found _ _ =>
      exact absurd ⟨piece, found, List.prefix_append ..⟩ (none _ List.suffix_rfl)
  | @plain first rest pieces _ _ ih =>
      rw [ih fun behind suffix => none behind (suffix.trans (List.suffix_cons ..)), List.map_cons]

end Scan

end Placeholder

namespace Settings

open Placeholder

/-- The text that stands for a variable in a settings file. -/
def valueOf? (environment : Environment) (name : List Char) : Option (List Char) :=
  environment[String.ofList name]?.map String.toList

/-- The placeholders of a settings file are replaced in one pass, and all else is kept. -/
structure ReplacedInOnePass (text : String) (pieces : List Piece) : Prop where
  cut : Cut text.toList pieces
  unique : ∀ others, Cut text.toList others → others = pieces
  written : pieces.flatMap Piece.written = text.toList
  filled : ∀ environment, (substituted environment text).toList =
    pieces.flatMap (Piece.filled (valueOf? environment))
  unchanged : (∀ behind, behind <:+ text.toList → ¬ Starts behind) →
    ∀ environment, substituted environment text = text

/-- Every text is cut into pieces in one way, and in every environment each piece is filled on its
own. -/
theorem replaced_in_one_pass (text : String) : ∃ pieces, ReplacedInOnePass text pieces := by
  obtain ⟨pieces, cut⟩ := exists_cut text.toList
  have filled (environment : Environment) : (substituted environment text).toList =
      pieces.flatMap (Piece.filled (valueOf? environment)) := by
    rw [substituted, String.toList_ofList]
    exact cut.filled (valueOf? environment)
  refine ⟨pieces, cut, fun _ => cut.unique, cut.written, filled, fun none environment => ?_⟩
  apply String.toList_injective
  rw [filled, cut.plain_of_none none, List.flatMap_map]
  exact List.flatMap_singleton' text.toList

end Settings

end TopicBroker

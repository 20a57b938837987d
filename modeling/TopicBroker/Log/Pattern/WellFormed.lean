import TopicBroker.Log.Pattern.CharacterSet
import TopicBroker.Text.Alphabetic

/-!
# Well-formed patterns

A log filter may ask for the texts that match a pattern, which is a regular
expression.  Nothing is matched here; a pattern is only checked for being
well-formed and not nested too deep.  It is read from left to right in one pass, which
keeps what is known of the groups in parentheses that are open.

A pattern is taken from between braces, so that no part of it is in braces itself.
-/

namespace TopicBroker.Pattern

/-- What has been read of a group, or of the pattern as a whole. -/
structure Reading where
  mode : Mode
  /-- The branches of a choice that have been finished. -/
  branches : Row
  /-- The parts of the present branch. -/
  sequence : Row
  /-- How deep the last part is nested, if there is one and it may be repeated. -/
  last : Option Nat

namespace Reading

/-- Nothing has been read. -/
def initial (mode : Mode) : Reading := ⟨mode, .empty, .empty, none⟩

/-- Add a part that is nested so deep and may be repeated. -/
def add (reading : Reading) (depth : Nat) : Reading :=
  { reading with sequence := reading.sequence.add depth, last := some depth }

/-- Repeat the last part. -/
def repeatLast? (reading : Reading) : Option Reading :=
  reading.last.map fun depth =>
    { reading with sequence := reading.sequence.deepen (depth + 1), last := some (depth + 1) }

/-- Go on with another mode. -/
def switch (reading : Reading) (mode : Mode) : Reading :=
  { reading with mode, sequence := reading.sequence.add 0, last := none }

/-- Go on with another branch. -/
def branch (reading : Reading) : Reading :=
  ⟨reading.mode, reading.branches.add reading.sequence.depth, .empty, none⟩

/-- How deep all that has been read is nested. -/
def depth (reading : Reading) : Nat := (reading.branches.add reading.sequence.depth).depth

end Reading

/-- What is known of a pattern that has been read up to some place. -/
structure Progress where
  /-- The innermost group that is open. -/
  inner : Reading
  /-- What is around it, from the inside out. -/
  around : List Reading
  /-- The names of groups. -/
  names : List (List Char)

namespace Progress

def initial : Progress := ⟨.initial .initial, [], []⟩

/-- Go into a group with the given mode. -/
def enter (progress : Progress) (mode : Mode) : Progress :=
  { progress with inner := .initial mode, around := progress.inner :: progress.around }

/-- Go out of a group, if one is open. -/
def leave? (progress : Progress) : Option Progress :=
  match progress.around with
  | [] => none
  | outer :: around =>
    some { progress with inner := outer.add (progress.inner.depth + 1), around }

end Progress

/-- Whether the name of a group is allowed: a letter or underscore, and then also numbers, points
and brackets. -/
def isGroupName (name : List Char) : Bool :=
  match name with
  | [] => false
  | first :: rest =>
    (first = '_' || Text.isAlphabetic first) &&
      rest.all fun character => character ∈ "_.[]".toList || Text.isAlphanumeric character

/-- Open a group with a name, given the text behind the angle bracket. -/
def openNamed? (progress : Progress) (text : List Char) : Option (Progress × List Char) :=
  let name := text.takeWhile (· ≠ '>')
  match text.dropWhile (· ≠ '>') with
  | _ :: rest =>
    if isGroupName name && name ∉ progress.names then
      some ({ progress with names := name :: progress.names }.enter progress.inner.mode, rest)
    else none
  | [] => none

/-- Switch flags for a new group or for the rest of this one, given the text behind the question
mark. -/
def switchFlags? (progress : Progress) (text : List Char) : Option (Progress × List Char) :=
  let ends (character : Char) : Bool := character = ':' || character = ')'
  let flags := text.takeWhile (!ends ·)
  let mode := progress.inner.mode.switch flags
  if !Mode.areFlags flags then none
  else
    match text.dropWhile (!ends ·) with
    | ':' :: rest => some (progress.enter mode, rest)
    | ')' :: rest =>
      if flags.isEmpty then none
      else some ({ progress with inner := progress.inner.switch mode }, rest)
    | _ => none

/-- Open a group, or switch flags, given the text behind the parenthesis. -/
def openGroup? (progress : Progress) : List Char → Option (Progress × List Char)
  | '?' :: 'P' :: '<' :: rest => openNamed? progress rest
  | '?' :: '<' :: rest => openNamed? progress rest
  | '?' :: rest => switchFlags? progress rest
  | rest => some (progress.enter progress.inner.mode, rest)

/-- The text after a question mark right behind a sign of repetition, which belongs to it. -/
def skipLazy : List Char → List Char
  | '?' :: rest => rest
  | rest => rest

/-- Read one element of a pattern. -/
def step? (progress : Progress) (text : List Char) : Option (Progress × List Char) := do
  let mode := progress.inner.mode
  let add (depth : Nat) : Progress := { progress with inner := progress.inner.add depth }
  match text with
  | [] => none
  | '(' :: rest => openGroup? progress (mode.skip rest)
  | ')' :: rest => some (← progress.leave?, rest)
  | '|' :: rest => some ({ progress with inner := progress.inner.branch }, rest)
  | '[' :: rest =>
    let rest ← skipOpening? mode rest
    let (depth, rest) ← readSet mode (rest.length + 1) .initial [] rest
    some (add depth, rest)
  | '\\' :: rest =>
    let (_, rest) ← readEscape mode rest
    some (add 0, rest)
  | first :: rest =>
    if first = '\x7b' ∨ (first = '.' ∧ !mode.wide) then none
    else if first ∈ "?*+".toList then
      some ({ progress with inner := ← progress.inner.repeatLast? }, skipLazy rest)
    else some (add 0, rest)

/-- Whether the rest of a pattern is well-formed, in at most so many steps. -/
def isCompleted (steps : Nat) (progress : Progress) (text : List Char) : Bool :=
  match steps, progress.inner.mode.skip text with
  | 0, _ => false
  | _, [] => progress.around.isEmpty && progress.inner.depth ≤ nestingLimit
  | steps + 1, text => (step? progress text).any fun (progress, rest) =>
    isCompleted steps progress rest

/-- Whether a text is a well-formed pattern. -/
def isWellFormed (text : List Char) : Bool := isCompleted (text.length + 1) .initial text

end TopicBroker.Pattern

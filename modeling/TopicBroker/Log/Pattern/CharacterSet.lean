import TopicBroker.Log.Pattern.Escape
import TopicBroker.Log.Pattern.Nesting

/-!
# Sets of characters in patterns

A set of characters stands in brackets, and begins with `^` if its members are
excluded.  Its members are characters, ranges of characters, escapes, names of sets between colons
and brackets, and further sets.  Two sets of members can be combined by doubled
signs, each of which combines all members in front of it with those behind it.

Right behind the opening bracket, hyphens stand for themselves, and so does a
closing bracket, since no set may be left empty.
-/

namespace TopicBroker.Pattern

/-- A character of a set, or an escape that stands for one or several of them. -/
def readMember (mode : Mode) (text : List Char) : Option (Escape × List Char) := do
  let (member, rest) ← match text with
    | [] => none
    | '\\' :: rest => readEscape mode rest
    | character :: rest => some (.character character, rest)
  match member with
  | .character character =>
    if mode.wide || character.toNat < 0x80 then some (member, rest) else none
  | .choice => some (member, rest)
  | .place => none

/-- The text after a member of a set or a range of characters, whose ends must be in order. -/
def skipRange? (mode : Mode) (text : List Char) : Option (List Char) := do
  let (first, rest) ← readMember mode text
  match mode.skip rest with
  | '-' :: rest =>
    if mode.afterHyphen? rest = some ']' ∨ mode.afterHyphen? rest = some '-' then
      some ('-' :: rest)
    else
      match first, ← readMember mode (mode.skip rest) with
      | .character first, (.character last, rest) => if first ≤ last then some rest else none
      | _, _ => none
  | rest => some rest

/-- The names of sets of ASCII characters. -/
def setNames : List String :=
  ["alnum", "alpha", "ascii", "blank", "cntrl", "digit", "graph", "lower", "print", "punct",
    "space", "upper", "word", "xdigit"]

/-- The name of a set between colons with a closing bracket, if the text behind an opening bracket
starts with that: whether the members are excluded, and the text after it. -/
def readNamedSet (text : List Char) : Option (Bool × List Char) := do
  let (excluded, rest) ← match text with
    | ':' :: '^' :: rest => some (true, rest)
    | ':' :: rest => some (false, rest)
    | _ => none
  match rest.dropWhile (· ≠ ':') with
  | ':' :: ']' :: after =>
    let name := String.ofList (rest.takeWhile (· ≠ ':'))
    if name ∈ setNames then some (excluded, after) else none
  | _ => none

/-- A set whose closing bracket has not been read. -/
structure OpenSet where
  /-- Whether nothing but hyphens stands behind the opening bracket. -/
  begun : Bool
  /-- How deep the set in front of the last doubled sign is nested. -/
  combined : Option Nat
  /-- The members behind the last doubled sign. -/
  members : Row

namespace OpenSet

/-- A set of which only the opening bracket has been read. -/
def initial : OpenSet := ⟨true, none, .empty⟩

/-- Add a hyphen right behind the opening bracket. -/
def addHyphen (set : OpenSet) : OpenSet := { set with members := set.members.add 0 }

/-- Add a member that is nested so deep. -/
def add (set : OpenSet) (depth : Nat) : OpenSet :=
  { set with begun := false, members := set.members.add depth }

/-- How deep the content of the set is nested. -/
def depth (set : OpenSet) : Nat :=
  match set.combined with
  | none => set.members.depth
  | some depth => max depth set.members.depth + 1

/-- Combine all members so far with the following ones. -/
def combine (set : OpenSet) : OpenSet := ⟨false, some set.depth, .empty⟩

end OpenSet

/-- The text after an opening bracket, and after the sign that members are excluded. -/
def skipOpening? (mode : Mode) (text : List Char) : Option (List Char) :=
  match mode.skip text with
  | '^' :: rest => if mode.wide then some rest else none
  | rest => some rest

/-- How deep a set is nested, and the text after it, given what has been read of it and of the sets
around it, in at most so many steps. -/
def readSet (mode : Mode) (steps : Nat) (set : OpenSet) (around : List OpenSet)
    (text : List Char) : Option (Nat × List Char) :=
  match steps, mode.skip text with
  | 0, _ => none
  | _, [] => none
  | steps + 1, ']' :: rest =>
    if set.begun ∧ set.members.count = 0 then readSet mode steps (set.add 0) around rest
    else
      match around with
      | [] => some (set.depth + 1, rest)
      | outer :: around => readSet mode steps (outer.add (set.depth + 1)) around rest
  | steps + 1, '[' :: rest =>
    match readNamedSet rest with
    | some (excluded, rest) =>
      if excluded && !mode.wide then none else readSet mode steps (set.add 0) around rest
    | none => do readSet mode steps .initial (set :: around) (← skipOpening? mode rest)
  | steps + 1, text =>
    if set.begun ∧ text.head? = some '-' then
      readSet mode steps set.addHyphen around text.tail
    else if ["&&", "--", "~~"].any (·.toList.isPrefixOf text) then
      readSet mode steps set.combine around (text.drop 2)
    else do readSet mode steps (set.add 0) around (← skipRange? mode text)

end TopicBroker.Pattern

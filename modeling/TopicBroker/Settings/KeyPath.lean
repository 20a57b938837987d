import TopicBroker.Text.Numeral
import TopicBroker.Toml.Value

/-!
# Paths into settings

A key path leads from the root of the settings into tables by key and into lists
by position, as in `limits.max_topic_levels` or `hosts[0].name`.  Writing along a path
makes tables and lists of what is in the way.  A table is merged key by key
into a table that is there already; every other value replaces what is there.
-/

namespace TopicBroker

open Toml (Value alterEntry)

/-- A step from a value to one of its parts. -/
inductive PathStep where
  | key (name : String)
  /-- A position in a list, counted from its end if it is negative. -/
  | position (index : Int)
  deriving DecidableEq, Repr

/-- A path from the root of the settings, whose first step is always a key. -/
structure KeyPath where
  root : String
  steps : List PathStep
  deriving DecidableEq, Repr

namespace KeyPath

/-- Whether a character may stand in a key of a path. -/
def inKey (character : Char) : Bool :=
  character.isAlphanum || character = '_' || character = '-'

/-- A key at the start of a text. -/
def readKey (text : List Char) : Option (String × List Char) :=
  let key := text.takeWhile inKey
  if key.isEmpty then none else some (String.ofList key, text.dropWhile inKey)

/-- Whether a character is skipped next to a position. -/
def isGap (character : Char) : Bool := character = ' ' || character = '\t'

/-- A position at the start of a text, with the bracket that ends it. -/
def readPosition (text : List Char) : Option (Int × List Char) := do
  let inNumber (character : Char) : Bool := character = '-' || Text.isDigit character
  let text := text.dropWhile isGap
  let index ← Text.signed? (text.takeWhile inNumber)
  let index ← Text.inInt64? index
  match (text.dropWhile inNumber).dropWhile isGap with
  | ']' :: rest => some (index, rest)
  | _ => none

/-- The steps that make up a text, at most so many. -/
def readSteps (limit : Nat) (text : List Char) : Option (List PathStep) :=
  match limit, text with
  | _, [] => some []
  | limit + 1, '.' :: rest => do
    let (name, rest) ← readKey rest
    return .key name :: (← readSteps limit rest)
  | limit + 1, '[' :: rest => do
    let (index, rest) ← readPosition rest
    return .position index :: (← readSteps limit rest)
  | _, _ => none

/-- The path that a text writes. -/
def parse? (text : String) : Option KeyPath := do
  let (root, rest) ← readKey text.toList
  return ⟨root, ← readSteps rest.length rest⟩

/-- The path that a text stands for; a text that writes no path is a single key. -/
def ofText (text : String) : KeyPath :=
  (parse? text).getD ⟨text, []⟩

end KeyPath

/-- Change the value of a key, given what is there so far.  What is no table becomes one. -/
def Toml.Value.alterKey (key : String) (change : Value → Value) (value : Value) : Value :=
  .table (alterEntry key (fun present => change (present.getD .missing)) value.entries)

/-- Change the value at a position, given what is there so far.  What is no list becomes one, and a
list that is too short is filled up with missing values, at its start for a negative position. -/
def Toml.Value.alterPosition (index : Int) (change : Value → Value) (value : Value) : Value :=
  let items := match value with
    | .list items => items
    | _ => []
  if 0 ≤ index then
    let position := index.toNat
    let filled := items ++ List.replicate (position + 1 - items.length) .missing
    .list (filled.modify position change)
  else
    let back := index.natAbs
    if back ≤ items.length then .list (items.modify (items.length - back) change)
    else
      let filled := List.replicate (back - items.length) .missing ++ items
      .list (filled.modify 0 change)

mutual

/-- Lay a value over another one. -/
def Toml.Value.over : (upper : Value) → (lower : Value) → Value
  | .table entries, lower => layEntries entries (.table lower.entries)
  | .missing, _ => .missing
  | .boolean value, _ => .boolean value
  | .integer value, _ => .integer value
  | .float value, _ => .float value
  | .text value, _ => .text value
  | .moment text, _ => .moment text
  | .list items, _ => .list items

/-- Lay entries over the table below, one after the other. -/
def layEntries : List (String × Value) → Value → Value
  | [], lower => lower
  | (key, value) :: rest, lower => layEntries rest (lower.alterKey key value.over)

end

/-- Write a value along the steps of a path. -/
def writeAlong (written : Value) : List PathStep → Value → Value
  | [], present => written.over present
  | .key name :: steps, present => present.alterKey name (writeAlong written steps)
  | .position index :: steps, present => present.alterPosition index (writeAlong written steps)

/-- Write a value at a path. -/
def KeyPath.write (path : KeyPath) (written present : Value) : Value :=
  writeAlong written (.key path.root :: path.steps) present

end TopicBroker

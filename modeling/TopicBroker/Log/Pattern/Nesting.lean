/-!
# How deep patterns are nested

Groups, repetitions and sets of characters each add a level around what they hold.  So does
a row of parts, such as a sequence or a choice, unless it has only one part.  Of the parts of a
row it is enough to know their number and the depth of the deepest one.
-/

namespace TopicBroker.Pattern

/-- The parts of a sequence, a choice or a set. -/
structure Row where
  count : Nat
  /-- How deep the deepest part is nested. -/
  deepest : Nat
  deriving DecidableEq, Repr

namespace Row

def empty : Row := ⟨0, 0⟩

/-- Add a part that is nested so deep. -/
def add (row : Row) (depth : Nat) : Row := ⟨row.count + 1, max row.deepest depth⟩

/-- Put a part that is nested so deep in place of one that is not nested deeper. -/
def deepen (row : Row) (depth : Nat) : Row := ⟨row.count, max row.deepest depth⟩

/-- How deep the row itself is nested. -/
def depth (row : Row) : Nat := if row.count ≤ 1 then row.deepest else row.deepest + 1

end Row

/-- The deepest that a pattern may be nested. -/
def nestingLimit : Nat := 250

end TopicBroker.Pattern

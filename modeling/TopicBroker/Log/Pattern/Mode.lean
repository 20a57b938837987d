import TopicBroker.Text.Alphanumeric

/-!
# Modes of patterns

How a pattern is read depends on flags, which can be switched for a group or for the
rest of one.  Two of them matter for whether the pattern is well-formed.

The flag `u` widens the repertoire from the ASCII characters to all characters, and is on
at first.  With ASCII characters alone, nothing may stand for all but some
characters, because that would take in single bytes of other characters.  With the wide
repertoire, boundaries of words are refused.

The flag `x` makes a pattern verbose: blanks and comments are passed over, where a
comment starts with a hash and runs to the end of the line.
-/

namespace TopicBroker.Pattern

/-- The flags that are in force at some place of a pattern. -/
structure Mode where
  /-- Whether the repertoire is that of all characters. -/
  wide : Bool
  /-- Whether blanks and comments are passed over. -/
  verbose : Bool
  deriving DecidableEq, Repr

/-- The text after blanks and comments. -/
def skipComments (inComment : Bool) : List Char → List Char
  | [] => []
  | first :: rest =>
    if inComment then skipComments (first ≠ '\n') rest
    else if Text.isBlank first then skipComments false rest
    else if first = '#' then skipComments true rest
    else first :: rest

namespace Mode

/-- The mode in which a pattern starts. -/
def initial : Mode := ⟨true, false⟩

/-- The text after what the mode passes over. -/
def skip (mode : Mode) (text : List Char) : List Char :=
  if mode.verbose then skipComments false text else text

/-- The character that decides whether the hyphen in front of a text makes a range.  In verbose
mode, blanks are passed over, and one hash with the blanks behind it. -/
def afterHyphen? (mode : Mode) (text : List Char) : Option Char :=
  if mode.verbose then
    match text.dropWhile Text.isBlank with
    | '#' :: rest => (rest.dropWhile Text.isBlank).head?
    | rest => rest.head?
  else text.head?

/-- Whether a text switches flags: on in front of the hyphen, and off behind it. -/
def areFlags (text : List Char) : Bool :=
  text.all (· ∈ "imsUuRx-".toList) && text.Nodup && text.getLast? ≠ some '-'

/-- Whether a flag is on after a text has switched flags. -/
def flagAfter (text : List Char) (flag : Char) (present : Bool) : Bool :=
  if flag ∈ text then decide (flag ∈ text.takeWhile (· ≠ '-')) else present

/-- The mode after a text has switched flags. -/
def switch (mode : Mode) (text : List Char) : Mode where
  wide := flagAfter text 'u' mode.wide
  verbose := flagAfter text 'x' mode.verbose

end Mode

end TopicBroker.Pattern

import TopicBroker.Toml.Dialect

/-!
# Blanks, comments and line ends

Between the parts of a document there may be blanks, which are spaces and
tabulators.  A line may end with a comment, which starts with a hash and runs to the
end of the line, and lines end with a line feed, which a carriage return may
precede.
-/

namespace TopicBroker.Toml

/-- A reader takes something from the start of a text, and gives it together with the rest. -/
abbrev Reader (α : Type) := List Char → Option (α × List Char)

/-- Whether a character may stand inside a line: no control character but the tabulator. -/
def isPlain (character : Char) : Bool :=
  character = '\t' || (0x20 ≤ character.toNat && character.toNat ≠ 0x7F)

def isBlank (character : Char) : Bool := character = ' ' || character = '\t'

/-- The text after blanks. -/
def skipBlanks (text : List Char) : List Char := text.dropWhile isBlank

/-- The text after a line end, if the text starts with one. -/
def skipLineEnd? : List Char → Option (List Char)
  | '\n' :: rest => some rest
  | '\r' :: '\n' :: rest => some rest
  | _ => none

/-- The text after blanks, comments and line ends, unless a comment holds a control character. -/
def skipLayout? (inComment : Bool) : List Char → Option (List Char)
  | [] => some []
  | '\n' :: rest => skipLayout? false rest
  | '\r' :: '\n' :: rest => skipLayout? false rest
  | first :: rest =>
    if inComment then
      if isPlain first then skipLayout? true rest else none
    else if isBlank first then skipLayout? false rest
    else if first = '#' then skipLayout? true rest
    else some (first :: rest)

/-- The text after whatever may stand between the parts of a table in braces. -/
def skipInBraces? (dialect : Dialect) (text : List Char) : Option (List Char) :=
  if dialect.bracesSpanLines then skipLayout? false text else some (skipBlanks text)

/-- The next line, if nothing but blanks and a comment is left of this one. -/
def nextLine? (text : List Char) : Option (List Char) :=
  let rest :=
    match skipBlanks text with
    | '#' :: comment => comment.dropWhile isPlain
    | rest => rest
  match rest with
  | [] => some []
  | rest => skipLineEnd? rest

end TopicBroker.Toml

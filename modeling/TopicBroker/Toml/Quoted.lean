import TopicBroker.Text.Numeral
import TopicBroker.Toml.Layout

/-!
# Quoted texts of a document

There are four ways to quote a text.  Between double quotes, a backslash
introduces an escape; between single quotes, every character stands for itself.
Three quotes of either kind enclose a text of several lines: a line end right
after the opening quotes is dropped, and up to two quotes may stand right before the
closing ones.  Between three double quotes, a backslash at the end of a line drops
the line end and all blanks and line ends that follow.
-/

namespace TopicBroker.Toml

/-- The character that a letter stands for after a backslash. -/
def letterEscape? (dialect : Dialect) : Char → Option Char
  | 'b' => some '\x08'
  | 't' => some '\t'
  | 'n' => some '\n'
  | 'f' => some '\x0c'
  | 'r' => some '\r'
  | 'e' => if dialect.shortEscapes then some '\x1b' else none
  | '\x22' => some '\x22'
  | '\\' => some '\\'
  | _ => none

/-- The character with the number that is written in hexadecimal digits. -/
def numberedCharacter? (digits : List Char) : Option Char := do
  let number ← Text.numeral? 16 digits
  if number.isValidChar then some (Char.ofNat number) else none

/-- A character by its number in exactly so many hexadecimal digits. -/
def readNumbered (count : Nat) (text : List Char) : Option (Char × List Char) :=
  let digits := text.take count
  if digits.length = count then (numberedCharacter? digits).map (·, text.drop count) else none

/-- The character that an escape stands for, given the text after the backslash. -/
def readEscape (dialect : Dialect) : Reader Char
  | 'u' :: rest => readNumbered 4 rest
  | 'U' :: rest => readNumbered 8 rest
  | 'x' :: rest => if dialect.shortEscapes then readNumbered 2 rest else none
  | letter :: rest => (letterEscape? dialect letter).map (·, rest)
  | [] => none

/-- Put a character in front of a text that is being read. -/
def prepend (character : Char) (read : Option (List Char × List Char)) :
    Option (List Char × List Char) :=
  read.map fun (text, rest) => (character :: text, rest)

/-- The rest of a text between double quotes, in at most as many steps as the bound has
characters. -/
def doubleQuoted (dialect : Dialect) (bound text : List Char) : Option (List Char × List Char) :=
  match bound, text with
  | _ :: _, '\x22' :: rest => some ([], rest)
  | _ :: bound, '\\' :: rest => do
    let (character, rest) ← readEscape dialect rest
    prepend character (doubleQuoted dialect bound rest)
  | _ :: bound, first :: rest =>
    if isPlain first then prepend first (doubleQuoted dialect bound rest) else none
  | _, _ => none

/-- The rest of a text between single quotes. -/
def singleQuoted (text : List Char) : Option (List Char × List Char) :=
  match text.dropWhile fun character => isPlain character && character ≠ '\x27' with
  | '\x27' :: rest =>
    some (text.takeWhile fun character => isPlain character && character ≠ '\x27', rest)
  | _ => none

/-- The end of a text of several lines, given the quote: the quotes that still belong to the text,
and what follows the closing ones. -/
def closing? (quote : Char) (text : List Char) : Option (List Char × List Char) :=
  let quotes := (text.takeWhile (· = quote)).length
  if quotes < 3 then none
  else
    let inside := min (quotes - 3) 2
    some (List.replicate inside quote, text.drop (inside + 3))

/-- The text after blanks and line ends. -/
def skipBlankLines : List Char → List Char
  | '\n' :: rest => skipBlankLines rest
  | '\r' :: '\n' :: rest => skipBlankLines rest
  | first :: rest => if isBlank first then skipBlankLines rest else first :: rest
  | [] => []

/-- The text after a backslash at the end of a line, and after all blanks and line ends that
follow. -/
def skipJoinedLines? (text : List Char) : Option (List Char) :=
  (skipLineEnd? (skipBlanks text)).map skipBlankLines

/-- The rest of a text of several lines, given the quote and whether the backslash has a meaning, in
at most as many steps as the bound has characters. -/
def severalLines (dialect : Dialect) (quote : Char) (escapes : Bool) (bound text : List Char) :
    Option (List Char × List Char) :=
  match bound with
  | [] => none
  | _ :: bound =>
    let continued := severalLines dialect quote escapes bound
    match closing? quote text with
    | some closed => some closed
    | none =>
      match text with
      | [] => none
      | '\r' :: '\n' :: rest =>
        let line := prepend '\n' (continued rest)
        if dialect.keepsLineEnds then prepend '\r' line else line
      | '\n' :: rest => prepend '\n' (continued rest)
      | first :: rest =>
        if escapes && first = '\\' then
          match skipJoinedLines? rest with
          | some rest => continued rest
          | none => do
            let (character, rest) ← readEscape dialect rest
            prepend character (continued rest)
        else if isPlain first then prepend first (continued rest)
        else none

/-- A quoted text on one line.  Each step takes up some of the text, so the text bounds the
steps. -/
def readLineText (dialect : Dialect) (text : List Char) : Option (String × List Char) :=
  match text with
  | '\x22' :: rest =>
    (doubleQuoted dialect text rest).map fun (text, rest) => (String.ofList text, rest)
  | '\x27' :: rest => (singleQuoted rest).map fun (text, rest) => (String.ofList text, rest)
  | _ => none

/-- A quoted text of one or several lines. -/
def readText (dialect : Dialect) (text : List Char) : Option (String × List Char) :=
  let several (quote : Char) (escapes : Bool) (body : List Char) : Option (String × List Char) :=
    let body := (skipLineEnd? body).getD body
    (severalLines dialect quote escapes text body).map fun (text, rest) =>
      (String.ofList text, rest)
  match text with
  | '\x22' :: '\x22' :: '\x22' :: rest => several '\x22' true rest
  | '\x27' :: '\x27' :: '\x27' :: rest => several '\x27' false rest
  | text => readLineText dialect text

end TopicBroker.Toml

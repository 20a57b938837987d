import TopicBroker.Log.Pattern.Mode
import TopicBroker.Text.Numeral

/-!
# Escapes of patterns

A backslash introduces an escape.  It stands for one character, which is written by a
letter, by its number in hexadecimal digits, or by itself if it is an ASCII
character with a meaning of its own; for a choice of characters; or for a place between
characters.
-/

namespace TopicBroker.Pattern

/-- What an escape stands for. -/
inductive Escape where
  | character (character : Char)
  /-- One of several characters. -/
  | choice
  /-- A place between characters. -/
  | place

/-- Whether a character is an ASCII character that a backslash may precede to stand for itself. -/
def isEscapable (character : Char) : Bool :=
  character.toNat < 0x80 && !character.isAlphanum && character ≠ '<' && character ≠ '>'

/-- So many characters, apart from what the mode passes over. -/
def readCharacters (mode : Mode) : (count : Nat) → List Char → Option (List Char × List Char)
  | 0, text => some ([], text)
  | count + 1, text =>
    match mode.skip text with
    | [] => none
    | first :: rest =>
      (readCharacters mode count rest).map fun (characters, rest) => (first :: characters, rest)

/-- A character by its number in exactly so many hexadecimal digits.  Among ASCII characters, two
digits stand for a byte. -/
def readNumbered (mode : Mode) (count : Nat) (text : List Char) :
    Option (Escape × List Char) := do
  let (digits, rest) ← readCharacters mode count text
  let number ← Text.numeral? 16 digits
  if number.isValidChar ∧ (mode.wide ∨ 2 < count ∨ number < 0x80) then
    some (.character (Char.ofNat number), rest)
  else none

/-- The choice of all characters of a category, which is written by its letter. -/
def readCategory (mode : Mode) (text : List Char) : Option (Escape × List Char) :=
  match mode.skip text with
  | [] => none
  | category :: rest =>
    if mode.wide && category ∈ "CLMNPSZclmnpsz".toList then some (.choice, rest) else none

/-- The character that a letter stands for behind a backslash. -/
def letterEscape? : Char → Option Char
  | 'a' => some '\x07'
  | 'f' => some '\x0c'
  | 'n' => some '\n'
  | 'r' => some '\r'
  | 't' => some '\t'
  | 'v' => some '\x0b'
  | _ => none

/-- What an escape stands for, given the text after the backslash. -/
def readEscape (mode : Mode) : List Char → Option (Escape × List Char)
  | [] => none
  | 'x' :: rest => readNumbered mode 2 rest
  | 'u' :: rest => readNumbered mode 4 rest
  | 'U' :: rest => readNumbered mode 8 rest
  | 'p' :: rest => readCategory mode rest
  | 'P' :: rest => readCategory mode rest
  | first :: rest =>
    if first ∈ "dsw".toList then some (.choice, rest)
    else if first ∈ "DSW".toList then if mode.wide then some (.choice, rest) else none
    else if first ∈ "bB<>".toList then if mode.wide then none else some (.place, rest)
    else if first ∈ "Az".toList then some (.place, rest)
    else if isEscapable first then some (.character first, rest)
    else (letterEscape? first).map fun character => (.character character, rest)

end TopicBroker.Pattern

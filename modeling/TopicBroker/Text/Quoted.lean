import TopicBroker.Text.Unprintable

/-!
# Quoted texts

A quoted text stands between double quotes.  Inside, the double quote and the
backslash are escaped, as are the null character, the tabulator and the two
line breaks, and every character that is not printed as itself is shown by its
number.
-/

namespace TopicBroker.Text

/-- The number of a character in lowercase hexadecimal digits. -/
def hexadecimal (number : Nat) : List Char :=
  Nat.toDigits 16 number

/-- How a character is written inside a quoted text. -/
def quotedCharacter (character : Char) : List Char :=
  if character = '\x00' then ['\\', '0']
  else if character = '\t' then ['\\', 't']
  else if character = '\r' then ['\\', 'r']
  else if character = '\n' then ['\\', 'n']
  else if character = '\x22' ∨ character = '\\' then ['\\', character]
  else if character.toNat < 0x20 ∨ character.toNat = 0x7F ∨
      inRanges unprintableRanges character then
    ['\\', 'u', '\x7b'] ++ hexadecimal character.toNat ++ ['\x7d']
  else [character]

/-- A text between double quotes, with escapes. -/
def quoted (text : String) : String :=
  String.ofList (['\x22'] ++ text.toList.flatMap quotedCharacter ++ ['\x22'])

end TopicBroker.Text

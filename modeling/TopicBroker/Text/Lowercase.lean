/-!
# Lowercase letters

Names are compared without regard to case.  Two notions of lowercase are in
use: the ASCII one changes the letters `A` to `Z` only, and the wider one also
changes the two characters outside ASCII whose lowercase forms hold an ASCII
letter, the dotted capital `I` and the Kelvin sign.  All other characters stay
as they are; no comparison with an ASCII name can tell the difference.
-/

namespace TopicBroker.Text

/-- The text with `A` to `Z` in lowercase. -/
def asciiLower (text : List Char) : List Char :=
  text.map Char.toLower

/-- The lowercase form of a character as far as ASCII letters are concerned. -/
def lowerCharacter (character : Char) : List Char :=
  if character.toNat = 0x130 then ['i', Char.ofNat 0x307]
  else if character.toNat = 0x212A then ['k']
  else [character.toLower]

/-- The text in lowercase as far as ASCII letters are concerned. -/
def lower (text : List Char) : List Char :=
  text.flatMap lowerCharacter

end TopicBroker.Text

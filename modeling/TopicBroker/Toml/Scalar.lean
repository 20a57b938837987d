import TopicBroker.Toml.Moment
import TopicBroker.Toml.Quoted
import TopicBroker.Toml.Value

/-!
# Single values of a document

A single value is a quoted text or a word: a truth value, a whole number, a float, or
a moment.  Digits may be grouped by underscores, each between two digits.  Whole
numbers may be written in base 16, 8 or 2 without a sign, and must be held by 64
bits; decimal numbers have no needless zero in front.
-/

namespace TopicBroker.Toml

/-- Digits without the underscores between them; every underscore must stand between two digits. -/
def ungrouped? : List Char → Option (List Char)
  | '_' :: _ => none
  | [] => some []
  | digit :: '_' :: next :: rest =>
    if next = '_' then none else (ungrouped? (next :: rest)).map (digit :: ·)
  | digit :: rest => (ungrouped? rest).map (digit :: ·)

/-- The digits of a group, which must be digits of the base, at least one. -/
def groupedDigits? (base : Nat) (text : List Char) : Option (List Char) := do
  let digits ← ungrouped? text
  let _ ← Text.numeral? base digits
  return digits

/-- The digits of a decimal number, without a needless zero in front. -/
def decimalDigits? (text : List Char) : Option (List Char) := do
  let digits ← groupedDigits? 10 text
  if 1 < digits.length ∧ digits.head? = some '0' then none else some digits

/-- A whole number. -/
def integer? (text : List Char) : Option Int :=
  let based (base : Nat) (digits : List Char) : Option Int := do
    let digits ← groupedDigits? base digits
    let number ← Text.numeral? base digits
    Text.inInt64? number
  match text with
  | '0' :: 'x' :: digits => based 16 digits
  | '0' :: 'o' :: digits => based 8 digits
  | '0' :: 'b' :: digits => based 2 digits
  | text => do
    let (negative, rest) := Text.cutSign text
    let number ← Text.numeral? 10 (← decimalDigits? rest)
    Text.inInt64? (if negative then -(number : Int) else number)

/-- The exponent of a float behind its mark, where zeros may stand in front. -/
def exponent? (text : List Char) : Option Int := do
  let (negative, rest) := Text.cutSign text
  Text.signedExponent? negative (← groupedDigits? 10 rest)

/-- Whether a character marks the exponent of a float. -/
def isExponentMark (character : Char) : Bool := character = 'e' || character = 'E'

/-- A float that is written with a point or an exponent. -/
def pointFloat? (dialect : Dialect) (negative : Bool) (text : List Char) : Option Float := do
  let factor := text.takeWhile fun character => !isExponentMark character
  let exponent ← match text.dropWhile fun character => !isExponentMark character with
    | [] => if '.' ∈ factor then some 0 else none
    | _ :: rest => exponent? rest
  let whole ← decimalDigits? (factor.takeWhile (· ≠ '.'))
  let fraction ← match factor.dropWhile (· ≠ '.') with
    | [] => some []
    | _ :: rest => groupedDigits? 10 rest
  let number := Text.nearestFloat negative (whole ++ fraction) (exponent - fraction.length)
  if number.isInf && !(negative && dialect.negativeOverflow) then none else some number

/-- A float. -/
def float? (dialect : Dialect) (text : List Char) : Option Float :=
  let (negative, rest) := Text.cutSign text
  if rest = "inf".toList then some (if negative then -(1.0 / 0.0) else 1.0 / 0.0)
  else if rest = "nan".toList then some (if negative then -(0.0 / 0.0) else 0.0 / 0.0)
  else pointFloat? dialect negative rest

/-- The value of a word. -/
def word? (dialect : Dialect) (text : List Char) : Option Value :=
  if text = "true".toList then some (.boolean true)
  else if text = "false".toList then some (.boolean false)
  else
    (((moment? dialect text).map Value.moment).or ((integer? text).map Value.integer)).or
      ((float? dialect text).map Value.float)

/-- Whether a character may stand in a word. -/
def inWord (character : Char) : Bool :=
  character.isAlphanum || character = '_' || character = '+' || character = '-' ||
    character = '.' || character = ':'

/-- The first word of a text.  A space between a date and a digit belongs to the word. -/
def readWord (text : List Char) : List Char × List Char :=
  let word := text.takeWhile inWord
  match text.dropWhile inWord with
  | ' ' :: digit :: rest =>
    if Text.isDigit digit && (readDate word).any (·.2.isEmpty) then
      (word ++ ' ' :: (digit :: rest).takeWhile inWord, (digit :: rest).dropWhile inWord)
    else (word, ' ' :: digit :: rest)
  | rest => (word, rest)

/-- A single value. -/
def readScalar (dialect : Dialect) (text : List Char) : Option (Value × List Char) :=
  match text with
  | '\x22' :: _ | '\x27' :: _ => (readText dialect text).map fun (text, rest) => (.text text, rest)
  | text =>
    let (word, rest) := readWord text
    (word? dialect word).map (·, rest)

end TopicBroker.Toml

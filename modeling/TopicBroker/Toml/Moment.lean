import TopicBroker.Text.Numeral
import TopicBroker.Toml.Dialect

/-!
# Dates and times of a document

A moment is a date, a time of day, or both, and with both there may be an offset
from universal time.  Its canonical text writes a capital `T` between date and
time, at most nine digits of the fraction of a second without the zeros at its end
except for the first digit, and the offset zero hours as `Z` only if it was written
by letter.
-/

namespace TopicBroker.Toml

/-- A reader of exactly so many decimal digits, as a number. -/
def readDigits (count : Nat) (text : List Char) : Option (Nat × List Char) :=
  let digits := text.take count
  if digits.length = count ∧ digits.all Text.isDigit then
    (Text.numeral? 10 digits).map (·, text.drop count)
  else none

/-- The text after a character, if the text starts with it. -/
def skip? (character : Char) : List Char → Option (List Char)
  | first :: rest => if first = character then some rest else none
  | [] => none

/-- Two decimal digits. -/
def twoDigits (number : Nat) : List Char :=
  [Nat.digitChar (number / 10 % 10), Nat.digitChar (number % 10)]

/-- How many days a month has. -/
def daysOfMonth (year month : Nat) : Nat :=
  let leap := year % 4 = 0 ∧ (year % 100 ≠ 0 ∨ year % 400 = 0)
  if month = 2 then (if leap then 29 else 28)
  else if month ∈ [4, 6, 9, 11] then 30
  else 31

/-- A date, by its canonical text. -/
def readDate (text : List Char) : Option (List Char × List Char) := do
  let (year, rest) ← readDigits 4 text
  let (month, rest) ← readDigits 2 (← skip? '-' rest)
  let (day, rest) ← readDigits 2 (← skip? '-' rest)
  if 1 ≤ month ∧ month ≤ 12 ∧ 1 ≤ day ∧ day ≤ daysOfMonth year month then
    some (text.take 10, rest)
  else none

/-- The canonical text of the digits behind the point of the seconds. -/
def canonicalFraction (digits : List Char) : List Char :=
  let kept := ((digits.take 9).reverse.dropWhile (· = '0')).reverse
  '.' :: if kept.isEmpty then ['0'] else kept

/-- The fraction of a second, by its canonical text. -/
def readFraction (text : List Char) : Option (List Char × List Char) :=
  match text with
  | '.' :: rest =>
    let digits := rest.takeWhile Text.isDigit
    if digits.isEmpty then none
    else some (canonicalFraction digits, rest.dropWhile Text.isDigit)
  | rest => some ([], rest)

/-- The seconds with the colon in front and with their fraction, by their canonical text. -/
def readSeconds (text : List Char) : Option (List Char × List Char) := do
  let (second, rest) ← readDigits 2 (← skip? ':' text)
  let (fraction, rest) ← readFraction rest
  if second ≤ 60 then some (text.take 3 ++ fraction, rest) else none

/-- A time of day, by its canonical text. -/
def readTime (dialect : Dialect) (text : List Char) : Option (List Char × List Char) := do
  let (hour, rest) ← readDigits 2 text
  let (minute, rest) ← readDigits 2 (← skip? ':' rest)
  let (seconds, rest) ←
    if dialect.secondsOptional ∧ rest.head? ≠ some ':' then some ([], rest) else readSeconds rest
  if hour ≤ 23 ∧ minute ≤ 59 then some (text.take 5 ++ seconds, rest) else none

/-- An offset from universal time that makes up the whole text, by its canonical text. -/
def offset? (text : List Char) : Option (List Char) :=
  match text with
  | [] => some []
  | ['Z'] => some ['Z']
  | ['z'] => some ['Z']
  | sign :: rest => do
    if sign ≠ '+' ∧ sign ≠ '-' then none
    let (hour, rest) ← readDigits 2 rest
    let (minute, rest) ← readDigits 2 (← skip? ':' rest)
    if rest.isEmpty ∧ hour ≤ 23 ∧ minute ≤ 59 then
      let sign := if hour = 0 ∧ minute = 0 then '+' else sign
      some (sign :: twoDigits hour ++ ':' :: twoDigits minute)
    else none

/-- A date that may go on with a time and an offset, making up the whole text. -/
def datedMoment? (dialect : Dialect) (text : List Char) : Option (List Char) := do
  let (date, rest) ← readDate text
  match rest with
  | [] => some date
  | mark :: rest =>
    if mark ≠ 'T' ∧ mark ≠ 't' ∧ mark ≠ ' ' then none
    let (time, rest) ← readTime dialect rest
    let offset ← offset? rest
    some (date ++ 'T' :: time ++ offset)

/-- A time of day that makes up the whole text. -/
def timeMoment? (dialect : Dialect) (text : List Char) : Option (List Char) := do
  let (time, rest) ← readTime dialect text
  if rest.isEmpty then some time else none

/-- The moment that a text writes, by its canonical text. -/
def moment? (dialect : Dialect) (text : List Char) : Option String :=
  ((datedMoment? dialect text).or (timeMoment? dialect text)).map String.ofList

end TopicBroker.Toml

/-!
# Reading numbers

Numbers are read from their decimal text: unsigned ones with an optional plus,
signed ones with an optional sign, and fractional ones with an optional
fraction and power of ten.  Nothing else may stand before or after them.

A number may have any number of digits, but no more of them are computed with than
its answer depends on: a whole number is not read on once 64 bits do not hold it, and
the nearest float depends on its first digits only.
-/

namespace TopicBroker.Text

/-- The value of an ASCII digit in a base up to sixteen. -/
def digitValue? (base : Nat) (character : Char) : Option Nat :=
  let value :=
    if '0' ≤ character ∧ character ≤ '9' then some (character.toNat - '0'.toNat)
    else if 'a' ≤ character ∧ character ≤ 'f' then some (character.toNat - 'a'.toNat + 10)
    else if 'A' ≤ character ∧ character ≤ 'F' then some (character.toNat - 'A'.toNat + 10)
    else none
  value.filter (· < base)

def isDigit (character : Char) : Bool := '0' ≤ character && character ≤ '9'

/-- The greatest unsigned number of 64 bits. -/
def maxUInt64 : Nat := 18446744073709551615

/-- The number written by one or more digits of the given base, most significant first.  Digits
behind those that write at least the number `enough` change nothing. -/
def numeralUpTo? (enough base : Nat) (digits : List Char) : Option Nat :=
  let read (value : Nat) (digit : Char) : Option Nat :=
    (digitValue? base digit).map fun next => if value < enough then value * base + next else value
  if digits.isEmpty then none else digits.foldlM read 0

/-- The number written by one or more digits of the given base.  It is exact if 64 bits hold it, and
otherwise some number that they do not hold. -/
def numeral? (base : Nat) (digits : List Char) : Option Nat :=
  numeralUpTo? (maxUInt64 + 1) base digits

/-- An unsigned number: decimal digits, which a plus may precede. -/
def unsigned? (text : List Char) : Option Nat :=
  match text with
  | '+' :: digits => numeral? 10 digits
  | digits => numeral? 10 digits

/-- A signed number: decimal digits, which a sign may precede. -/
def signed? (text : List Char) : Option Int :=
  match text with
  | '-' :: digits => (numeral? 10 digits).map fun value => -Int.ofNat value
  | digits => (unsigned? digits).map Int.ofNat

/-- The least number of 64 bits in two's complement. -/
def minInt64 : Int := -9223372036854775808

/-- The greatest number of 64 bits in two's complement. -/
def maxInt64 : Int := 9223372036854775807

/-- A number is kept if 64 bits hold it in two's complement. -/
def inInt64? (value : Int) : Option Int :=
  if minInt64 ≤ value ∧ value ≤ maxInt64 then some value else none

/-- The number written by decimal digits. -/
def decimalValue (digits : List Char) : Nat :=
  digits.foldl (fun value digit => 10 * value + (digit.toNat - '0'.toNat)) 0

/-- How many significant digits of a number settle which float is nearest, together with whether any
other digit follows that is not zero: a number half-way between two floats has fewer digits. -/
def decisiveDigits : Nat := 800

/-- The nearest float to the number written by decimal digits, times a power of ten.  Powers of ten
far outside the range of floats are settled without being computed, and all digits behind the
decisive ones are summed up in a single one. -/
def nearestFloat (negative : Bool) (digits : List Char) (exponent : Int) : Float :=
  let significant := digits.dropWhile (· = '0')
  let kept := significant.take decisiveDigits
  let last := if (significant.drop decisiveDigits).all (· = '0') then '0' else '1'
  let order : Int := significant.length + exponent
  let magnitude : Float :=
    if significant.isEmpty then 0.0
    else if order > 400 then 1.0 / 0.0
    else if order < -400 then 0.0
    else
      let power : Int := order - (kept.length + 1)
      Float.ofScientific (decimalValue (kept ++ [last])) (power < 0) power.natAbs
  if negative then -magnitude else magnitude

/-- The sign in front of a number and the text behind it. -/
def cutSign (text : List Char) : Bool × List Char :=
  match text with
  | '-' :: rest => (true, rest)
  | '+' :: rest => (false, rest)
  | rest => (false, rest)

/-- An exponent from its sign and its digits.  Digits behind those that write at least the sixteenth
power of two change nothing. -/
def signedExponent? (negative : Bool) (digits : List Char) : Option Int :=
  (numeralUpTo? 65536 10 digits).map fun value => if negative then -(value : Int) else value

/-- The exponent behind the mark of a power of ten. -/
def exponent? (text : List Char) : Option Int :=
  match text with
  | [] => some 0
  | mark :: rest =>
    let (negative, digits) := cutSign rest
    if mark = 'e' ∨ mark = 'E' then signedExponent? negative digits else none

/-- A float without its sign: digits with a point among them or not, at least one digit in all, and
possibly a power of ten. -/
def magnitude? (negative : Bool) (text : List Char) : Option Float :=
  let whole := text.takeWhile isDigit
  let (fraction, rest) :=
    match text.dropWhile isDigit with
    | '.' :: rest => (rest.takeWhile isDigit, rest.dropWhile isDigit)
    | rest => ([], rest)
  let digits := whole ++ fraction
  if digits.isEmpty then none
  else (exponent? rest).map fun exponent =>
    nearestFloat negative digits (exponent - fraction.length)

/-- A float, also infinite or not a number; the words for these may be in either case. -/
def float? (text : List Char) : Option Float :=
  let (negative, rest) := cutSign text
  let word := rest.map Char.toLower
  if word = "inf".toList ∨ word = "infinity".toList then
    some (if negative then -(1.0 / 0.0) else 1.0 / 0.0)
  else if word = "nan".toList then some (0.0 / 0.0)
  else magnitude? negative rest

end TopicBroker.Text

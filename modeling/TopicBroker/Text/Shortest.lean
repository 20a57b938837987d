/-!
# The shortest decimal text of a float

A float is written with the fewest decimal digits that still read back as the
same float, and of the decimals with so few digits with the nearest one.  The
digits are written out by position, never with a power of ten.

A finite positive float is `m * 2 ^ q`.  The reals that round to it form an
interval around it that reaches half-way to its neighbours and includes its ends
exactly if `m` is even.  Counting in units of `2 ^ (q - 2)` makes the float and both ends
whole numbers.
-/

namespace TopicBroker.Text

/-- The mantissa of a float that is not subnormal starts with a bit that is not stored; this is its
weight, the 52nd power of two. -/
def hiddenBit : Nat := Nat.pow 2 52

/-- The weight of the bit that stores the sign of a float. -/
def signBit : Nat := Nat.pow 2 63

/-- The reals that round to a float, in units of a power of two. -/
structure RoundingInterval where
  low : Nat
  value : Nat
  high : Nat
  /-- Whether the ends round to the float too. -/
  closed : Bool
  /-- The exponent of the unit. -/
  unit : Int

/-- The interval of a positive finite float, from its bits without the sign. -/
def RoundingInterval.ofBits (bits : Nat) : RoundingInterval :=
  let exponentBits := bits / hiddenBit
  let fraction := bits % hiddenBit
  let mantissa := if exponentBits = 0 then fraction else fraction + hiddenBit
  let exponent : Int := (max exponentBits 1 : Nat) - 1075
  let narrowBelow := fraction = 0 ∧ 1 < exponentBits
  { low := if narrowBelow then 4 * mantissa - 1 else 4 * mantissa - 2
    value := 4 * mantissa
    high := 4 * mantissa + 2
    closed := mantissa % 2 = 0
    unit := exponent - 2 }

/-- A decimal number that rounds to the float and has the given power of ten, as its factor: the
nearer one of the two that enclose the float, if any of them is in the interval.  If both are
equally near, the greater one is taken. -/
def RoundingInterval.decimal? (interval : RoundingInterval) (power : Int) : Option Nat :=
  let scale (number : Nat) : Nat :=
    number * Nat.pow 2 interval.unit.toNat * Nat.pow 10 (-power).toNat
  let step : Nat := Nat.pow 10 power.toNat * Nat.pow 2 (-interval.unit).toNat
  let below := scale interval.value / step
  let inside (factor : Nat) : Bool :=
    let number := factor * step
    if interval.closed then scale interval.low ≤ number && number ≤ scale interval.high
    else scale interval.low < number && number < scale interval.high
  let nearerBelow : Bool := 2 * scale interval.value < (2 * below + 1) * step
  match inside below, inside (below + 1) with
  | true, true => some (if nearerBelow then below else below + 1)
  | true, false => some below
  | false, true => some (below + 1)
  | false, false => none

/-- Decimal digits with their power of ten, written out by position. -/
def positional (digits : List Char) (power : Int) : List Char :=
  if 0 ≤ power then digits ++ List.replicate power.toNat '0'
  else
    let places := power.natAbs
    if places < digits.length then
      digits.take (digits.length - places) ++ '.' :: digits.drop (digits.length - places)
    else ['0', '.'] ++ List.replicate (places - digits.length) '0' ++ digits

/-- A positive finite float with the fewest digits.  The greatest power of ten that has a decimal in
the interval gives the fewest digits, so powers are tried downwards. -/
def shortestDigits (bits : Nat) : List Char :=
  let interval := RoundingInterval.ofBits bits
  let found := (List.range 660).findSome? fun (offset : Nat) =>
    let power : Int := 310 - (offset : Int)
    (interval.decimal? power).map fun factor => positional (Nat.toDigits 10 factor) power
  found.getD []

/-- The text of a float. -/
def ofFloat (number : Float) : String :=
  let bits := number.toBits.toNat
  let negative := signBit ≤ bits
  let magnitude := bits % signBit
  let infinite := 2047 * hiddenBit
  if infinite < magnitude then "NaN"
  else
    let text :=
      if magnitude = infinite then "inf"
      else if magnitude = 0 then "0"
      else String.ofList (shortestDigits magnitude)
    if negative then "-" ++ text else text

end TopicBroker.Text

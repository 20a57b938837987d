/-!
# Generated client ids

A client that leaves its id open is given one: a fixed beginning followed by
32 lowercase hexadecimal digits, which write out a number of 128 bits.
Different numbers give different ids.
-/

namespace TopicBroker.ClientId

/-- The beginning of every generated id. -/
def beginning : String := "vibemq-"

/-- The hexadecimal digits of a number, filled up with zeros to the given width. -/
def paddedDigits (width number : Nat) : List Char :=
  let digits := Nat.toDigits 16 number
  List.replicate (width - digits.length) '0' ++ digits

/-- The client id for a number of 128 bits. -/
def generated (number : BitVec 128) : String :=
  beginning ++ String.ofList (paddedDigits 32 number.toNat)

end TopicBroker.ClientId

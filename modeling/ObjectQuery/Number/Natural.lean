/-!
# Reading natural numbers

A natural number written in decimal digits, with an optional plus sign and any number of leading
zeros.
-/

namespace ObjectQuery

def digitsValue (digits : List Char) : Nat :=
  digits.foldl (fun value digit => 10 * value + (digit.toNat - '0'.toNat)) 0

/-- The number that text stands for, if it is below the given bound. -/
def readNatural? (bound : Nat) (text : List Char) : Option Nat :=
  let digits := match text with
    | '+' :: rest => rest
    | other => other
  if digits.isEmpty || !digits.all Char.isDigit then none
  else if digitsValue digits < bound then some (digitsValue digits)
  else none

end ObjectQuery

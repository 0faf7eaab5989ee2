/-!
# Harvest.Text.Decimal

Decimal integers as text.

A decimal integer is an optional `+` or `-` followed by one or more ASCII digits; its value must
lie in the signed 64-bit range. Writing an integer gives its shortest decimal form with a `-`
for negative values.
-/

namespace Harvest

namespace Decimal

/-- The least signed 64-bit value. -/
def int64Min : Int := -9223372036854775808

/-- The greatest signed 64-bit value. -/
def int64Max : Int := 9223372036854775807

/-- The value of a list of ASCII digits, if every character is one. -/
def digitsValue : List Char → Nat → Option Nat
  | [], acc => some acc
  | c :: rest, acc => if c.isDigit then digitsValue rest (acc * 10 + (c.toNat - 48)) else none

/-- Reads a signed decimal integer in the 64-bit range. -/
def parseInt64? (s : String) : Option Int :=
  let cs := s.toList
  let (neg, digits) :=
    match cs with
    | '-' :: rest => (true, rest)
    | '+' :: rest => (false, rest)
    | _ => (false, cs)
  if digits.isEmpty then none
  else
    match digitsValue digits 0 with
    | none => none
    | some n =>
      let v : Int := if neg then -(n : Int) else n
      if int64Min ≤ v && v ≤ int64Max then some v else none

/-- The decimal form of an integer. -/
def render (n : Int) : String := toString n

end Decimal

end Harvest

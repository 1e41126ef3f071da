/-!
Decimals with a significand of 64 bits, and the doubles computed from them. `Scaled.ofDigits` keeps
as many digits as the significand holds; `Scaled.toFloat?` scales it in floating-point arithmetic,
so its last place may differ from that of the nearest double.
-/

namespace HttpDispatch.Decimal

/-- The number `significand · 10 ^ exponent`. -/
structure Scaled where
  significand : Nat
  exponent : Int

/-- Appends digits to a significand up to the first that takes it beyond 64 bits, and gives the
digits from there on. -/
def appendDigits (significand : Nat) : List Char → Nat × List Char
  | [] => (significand, [])
  | digit :: rest =>
    let longer := significand * 10 + (digit.toNat - '0'.toNat)
    if longer < Nat.pow 2 64 then appendDigits longer rest else (significand, digit :: rest)

namespace Scaled

/-- The number with these digits before and after its point. A digit left out before the point
still moves the others one place up; after the point it changes nothing. -/
def ofDigits (whole fraction : List Char) : Scaled :=
  let (front, wholeLeft) := appendDigits 0 whole
  let (significand, fractionLeft) := appendDigits front fraction
  ⟨significand, wholeLeft.length + fractionLeft.length - fraction.length⟩

def shift (number : Scaled) (places : Int) : Scaled :=
  { number with exponent := number.exponent + places }

/-- The double computed from a number, if it is finite: the nearest to the significand, times or
divided by the nearest to the power of ten. A power beyond the greatest of a double divides in two
steps. -/
def toFloat? (number : Scaled) : Option Float :=
  let power (exponent : Int) := Float.ofScientific 1 false exponent.toNat
  let value := number.significand.toUInt64.toFloat
  let exponent := number.exponent
  if number.significand = 0 ∨ exponent < -616 then some 0
  else if exponent < -308 then some (value / power 308 / power (-exponent - 308))
  else if exponent < 0 then some (value / power (-exponent))
  else if 308 < exponent then none
  else
    let scaled := value * power exponent
    if scaled.isInf then none else some scaled

end Scaled

end HttpDispatch.Decimal

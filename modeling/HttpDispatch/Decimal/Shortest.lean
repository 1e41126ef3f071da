/-!
Decimal text of binary floating-point numbers. `shortestDigits` finds the fewest digits that lie
in the interval of reals rounding to a number, and among those the digits nearest to it, an even
last digit where two are equally near; `written` says where their point stands and when they get
an exponent.
-/

namespace HttpDispatch.Decimal

/-- A finite number `significand · 2 ^ (power - 1076)`, with the offset chosen so that every
finite double has a natural power. `narrow` holds where the numbers below lie twice as close. -/
structure Binary where
  significand : Nat
  power : Nat
  narrow : Bool

/-- The magnitude of the double with these bits, if it is finite. -/
def Binary.ofBits? (bits : Nat) : Option Binary :=
  let exponent := bits / Nat.pow 2 52 % 2048
  let fraction := bits % Nat.pow 2 52
  if exponent = 2047 then none
  else if exponent = 0 then some ⟨fraction, 2, false⟩
  else some ⟨fraction + Nat.pow 2 52, exponent + 1, fraction = 0 ∧ 1 < exponent⟩

/-- The digits `digits` stand for `0.digits · 10 ^ (point - 400)`, read as one whole number with
`places` digits before the shift. -/
structure Digits where
  digits : Nat
  places : Nat
  point : Nat

structure Ratio where
  numerator : Nat
  denominator : Nat

def Ratio.le (left right : Ratio) : Bool :=
  left.numerator * right.denominator ≤ right.numerator * left.denominator

def Ratio.lt (left right : Ratio) : Bool :=
  left.numerator * right.denominator < right.numerator * left.denominator

/-- A quarter of the last binary place of a number, `quarters` times. -/
def Binary.quarters (number : Binary) (quarters : Nat) : Ratio :=
  ⟨quarters * Nat.pow 2 number.power, Nat.pow 2 1078⟩

/-- The decimal grid point `count · 10 ^ (exponent - 400)`. -/
def gridPoint (count exponent : Nat) : Ratio := ⟨count * Nat.pow 10 exponent, Nat.pow 10 400⟩

/-- Whether a real rounds to the number; the ends of the interval round to an even significand. -/
def Binary.isNear (number : Binary) (real : Ratio) : Bool :=
  let low := number.quarters (4 * number.significand - if number.narrow then 1 else 2)
  let high := number.quarters (4 * number.significand + 2)
  if number.significand % 2 = 0 then low.le real && real.le high
  else low.lt real && real.lt high

/-- The place of the decimal point: the least exponent with the number below its power. -/
def Binary.point (number : Binary) : Nat :=
  ((List.range 760).find? fun exponent =>
    (number.quarters (4 * number.significand)).lt (gridPoint 1 exponent)).getD 0

/-- The grid points with `places` digits around the number that round to it, the nearer first; of
two that are equally near, the even one. -/
def Binary.candidates (number : Binary) (places : Nat) : List Digits :=
  let point := number.point
  let value := number.quarters (4 * number.significand)
  let exponent := point - places
  let unit := gridPoint 1 exponent
  let below := value.numerator * unit.denominator / (value.denominator * unit.numerator)
  let belowPoint := gridPoint below exponent
  let abovePoint := gridPoint (below + 1) exponent
  -- both sides of the comparison are twice the distance, over the common denominator
  let middle : Ratio :=
    ⟨belowPoint.numerator + abovePoint.numerator, 2 * belowPoint.denominator⟩
  let lowerFirst := if below % 2 = 0 then value.le middle else value.lt middle
  let order := if lowerFirst then [below, below + 1] else [below + 1, below]
  (order.filter fun count => number.isNear (gridPoint count exponent)).map (⟨·, places, point⟩)

/-- The fewest digits that round to the number. Seventeen always suffice. -/
def Binary.shortestDigits (number : Binary) : Digits :=
  ((List.range 17).findSome? fun fewer => (number.candidates (fewer + 1)).head?).getD ⟨0, 1, 401⟩

/-- Writes digits whose point stands after the first `point` of them: without an exponent while
the point is at most sixteen places to the right or four to the left, and otherwise with a signed
one, after the first digit. -/
def written (text : List Char) (point : Int) : List Char :=
  if 0 < point ∧ point ≤ 16 then
    let places := point.toNat
    let after := text.drop places
    (text ++ List.replicate (places - text.length) '0').take places ++
      '.' :: if after.isEmpty then ['0'] else after
  else if -5 < point ∧ point ≤ 0 then
    '0' :: '.' :: List.replicate (-point).toNat '0' ++ text
  else
    let sign := if 0 < point then ['+'] else []
    let exponent := 'e' :: sign ++ (toString (point - 1)).toList
    match text with
    | [] => exponent
    | [digit] => digit :: exponent
    | digit :: rest => digit :: '.' :: rest ++ exponent

/-- The text of digits, without the zeros at their end. -/
def Digits.display (shown : Digits) : String :=
  let text := Nat.toDigits 10 shown.digits
  -- a carry may have added a digit in front
  let point : Int := shown.point + (text.length - shown.places : Nat) - 400
  String.ofList (written (text.reverse.dropWhile (· = '0')).reverse point)

def display (value : Float) : String :=
  let bits := value.toBits.toNat
  let sign := if bits / Nat.pow 2 63 = 1 then "-" else ""
  match Binary.ofBits? bits with
  | none => if value.isNaN then "NaN" else sign ++ "inf"
  | some number =>
    sign ++ if number.significand = 0 then "0.0" else number.shortestDigits.display

end HttpDispatch.Decimal

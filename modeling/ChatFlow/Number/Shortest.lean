import ChatFlow.Text.Digit
import ChatFlow.Number.Binary

/-!
# The shortest decimal text of a float

Of all decimals that read back as a given float, `shortestDecimal` takes one with the fewest digits,
and of those the nearest. The numbers that read back form an interval around the float: half way to
its neighbours on both sides, with the ends when the significand is even. Going from coarse to fine
decimal grids, the first grid with a point in that interval is the answer's, and if a grid has such
a point then one of the two grid points around the float is one.
-/

namespace ChatFlow

/-- The decimal `digits · 10 ^ power`. -/
structure Decimal where
  digits : Nat
  power : Int
  deriving DecidableEq, Repr

/-- A size as a fraction, for exact comparisons. -/
structure Fraction where
  num : Nat
  den : Nat

namespace Fraction

/-- The fraction `n · base ^ power`. -/
def scaled (n base : Nat) (power : Int) : Fraction :=
  ⟨n * Nat.pow base power.toNat, Nat.pow base (-power).toNat⟩

/-- Whether one fraction is less than another. -/
def lt (a b : Fraction) : Bool := a.num * b.den < b.num * a.den

/-- Whether one fraction is at most another. -/
def le (a b : Fraction) : Bool := a.num * b.den ≤ b.num * a.den

/-- How far apart two fractions are. -/
def distance (a b : Fraction) : Fraction :=
  ⟨a.num * b.den - b.num * a.den + (b.num * a.den - a.num * b.den), a.den * b.den⟩

end Fraction

/-- Whether the decimal lies in the interval of numbers that read back as the binary number. -/
def readsBack (b : Binary) (d : Decimal) : Bool :=
  let point := Fraction.scaled d.digits 10 d.power
  let below := if b.significand = Nat.pow 2 52 ∧ -1074 < b.exponent then 1 else 2
  let low := Fraction.scaled (4 * b.significand - below) 2 (b.exponent - 2)
  let high := Fraction.scaled (4 * b.significand + 2) 2 (b.exponent - 2)
  if b.significand % 2 = 0 then low.le point && point.le high
  else low.lt point && point.lt high

/-- The best point of one decimal grid that reads back, if there is one. -/
def gridPoint? (b : Binary) (power : Int) : Option Decimal :=
  let value := Fraction.scaled b.significand 2 b.exponent
  let grid := Fraction.scaled 1 10 power
  let below : Decimal := ⟨value.num * grid.den / (value.den * grid.num), power⟩
  let above : Decimal := ⟨below.digits + 1, power⟩
  let gap (d : Decimal) := (Fraction.scaled d.digits 10 power).distance value
  match readsBack b below, readsBack b above with
  | true, true =>
    if (gap below).lt (gap above) then some below
    else if (gap above).lt (gap below) then some above
    else some (if below.digits % 2 = 0 then below else above)
  | true, false => some below
  | false, true => some above
  | false, false => none

/-- The first grid from `power` down that has a point which reads back. -/
def firstGridPoint (b : Binary) : (grids : Nat) → (power : Int) → Decimal
  | 0, _ => ⟨0, 0⟩
  | grids + 1, power => (gridPoint? b power).getD (firstGridPoint b grids (power - 1))

/-- A power of ten above the number, so that the search starts from a grid that is coarse enough:
a bit more than three tenths of the position of the highest bit. -/
def coarsePower (b : Binary) : Int :=
  (b.exponent + Nat.log2 b.significand + 1) * 30103 / 100000 + 1

/-- The shortest decimal that reads back as the number, which is not zero. -/
def shortestDecimal (b : Binary) : Decimal :=
  firstGridPoint b 24 (coarsePower b)

/-- How decimals are written: positionally while the decimal point falls after at most `widest` and
before at most `deepest` places, otherwise with an exponent of at least two digits. -/
structure DecimalStyle where
  widest : Int
  deepest : Int

/-- Numbers are written positionally up to sixteen digits before the point and three zeros after. -/
def plainStyle : DecimalStyle := ⟨16, 3⟩

/-- Writes a decimal in a style. A whole number written positionally ends in `.0`. -/
def Decimal.write (style : DecimalStyle) (d : Decimal) : String :=
  let digits := (decimalText d.digits).toList
  let point : Int := digits.length + d.power
  String.ofList <|
    if -style.deepest ≤ point ∧ point ≤ style.widest then
      if point ≤ 0 then
        '0' :: '.' :: (List.replicate (-point).toNat '0' ++ digits)
      else if digits.length ≤ point.toNat then
        digits ++ List.replicate (point.toNat - digits.length) '0' ++ ['.', '0']
      else
        digits.take point.toNat ++ '.' :: digits.drop point.toNat
    else
      let power := point - 1
      let mantissa :=
        match digits with
        | first :: second :: rest => first :: '.' :: second :: rest
        | short => short
      let size := (decimalText power.natAbs).toList
      mantissa ++ 'e' :: (if power < 0 then '-' else '+')
        :: (List.replicate (2 - size.length) '0' ++ size)

/-- The texts of the numbers that have no digits. -/
structure SpecialNames where
  nan : String
  infinity : String

/-- The shortest text that reads back as the float. -/
def writeFloat (names : SpecialNames) (x : Float) : String :=
  match Binary.ofFloat? x with
  | none =>
    if x == x then (if x < 0 then "-" ++ names.infinity else names.infinity) else names.nan
  | some b =>
    let size := if b.significand = 0 then "0.0" else (shortestDecimal b).write plainStyle
    if b.negative then "-" ++ size else size

/-- The text of a float among other text: `inf` and `nan` in small letters. -/
def floatText (x : Float) : String :=
  writeFloat ⟨"nan", "inf"⟩ x

end ChatFlow

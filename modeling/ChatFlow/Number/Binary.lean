/-!
# The exact value of a floating-point number

A finite `Float` is a whole number times a power of two. `Binary` holds that form, in which rounding
to whole numbers and remainders are exact integer arithmetic; `Binary.toFloat` goes back.
-/

namespace ChatFlow

/-- One more than the greatest signed number of a machine word. -/
def wordEnd : Nat := Nat.pow 2 63

/-- Whether a whole number fits into a signed machine word. -/
def fitsWord (n : Int) : Bool :=
  decide (-wordEnd ≤ n) && decide (n < wordEnd)

/-- One more than the greatest signed number of half a machine word. -/
def halfWordEnd : Nat := Nat.pow 2 31

/-- The number `± significand · 2 ^ exponent`. -/
structure Binary where
  negative : Bool
  significand : Nat
  exponent : Int
  deriving DecidableEq, Repr

namespace Binary

/-- The exact value of a float; infinities and not-a-number have none. -/
def ofFloat? (x : Float) : Option Binary :=
  let bits : Nat := x.toBits.toNat
  let negative := decide (wordEnd ≤ bits)
  let power := bits / Nat.pow 2 52 % Nat.pow 2 11
  let fraction := bits % Nat.pow 2 52
  if power = 2047 then none
  else if power = 0 then some ⟨negative, fraction, -1074⟩
  else some ⟨negative, Nat.pow 2 52 + fraction, Int.ofNat power - 1075⟩

/-- The float nearest to the number. -/
def toFloat (b : Binary) : Float :=
  let size : Float :=
    match b.exponent with
    | .ofNat e => Float.ofNat (b.significand * Nat.pow 2 e)
    | .negSucc e => Float.ofScientific (b.significand * Nat.pow 5 (e + 1)) true (e + 1)
  if b.negative then -size else size

/-- The numerator of the size as a fraction of whole numbers. -/
def numerator (b : Binary) : Nat :=
  b.significand * Nat.pow 2 b.exponent.toNat

/-- The denominator of the size as a fraction of whole numbers. -/
def denominator (b : Binary) : Nat :=
  Nat.pow 2 (-b.exponent).toNat

/-- Gives the sign of the number to a size. -/
def signed (b : Binary) (size : Nat) : Int :=
  if b.negative then -size else size

/-- Whether the number is whole. -/
def isWhole (b : Binary) : Bool :=
  b.numerator % b.denominator == 0

/-- The whole part, towards zero. -/
def truncate (b : Binary) : Int :=
  b.signed (b.numerator / b.denominator)

/-- The greatest whole number that is not above. -/
def floor (b : Binary) : Int :=
  b.signed b.numerator / b.denominator

/-- The least whole number that is not below. -/
def ceil (b : Binary) : Int :=
  -(-(b.signed b.numerator) / b.denominator)

end Binary

/-- The quotient of two numbers, rounded to the nearest; a half goes to the even neighbour. -/
def divHalfEven (n d : Nat) : Nat :=
  let q := n / d
  let twice := 2 * (n % d)
  if twice < d then q
  else if d < twice then q + 1
  else q + q % 2

/-- The nearest whole number; a half goes to the even neighbour. -/
def Binary.round (b : Binary) : Int :=
  b.signed (divHalfEven b.numerator b.denominator)

/-- Positive infinity. -/
def infinity : Float := 1.0 / 0.0

/-- Not a number. -/
def notANumber : Float := 0.0 / 0.0

/-- Whether a float has the negative sign, which zero has too when it is negative. -/
def isNegativeFloat (x : Float) : Bool :=
  decide (wordEnd ≤ x.toBits.toNat)

/-- The nearest float to a whole number, unless the number is too large for any. -/
def floatOfInt? (n : Int) : Option Float :=
  let x := Float.ofInt n
  match Binary.ofFloat? x with
  | some _ => some x
  | none => none

/-- The remainder of a division towards zero, exactly. The divisor is not zero. -/
def Binary.remainder (a b : Binary) : Float :=
  let e := min a.exponent b.exponent
  let scaled (x : Binary) : Nat := x.significand * Nat.pow 2 (x.exponent - e).toNat
  Binary.toFloat ⟨a.negative, scaled a % scaled b, e⟩

/-- The remainder of a division that has the sign of the divisor. The divisor is not zero. -/
def floorMod (x y : Float) : Float :=
  match Binary.ofFloat? x, Binary.ofFloat? y with
  | none, _ => notANumber
  | some a, some b => settle (a.remainder b)
  | some _, none => if y == y then settle x else notANumber
where
  /-- Moves a remainder that is not zero to the side of the divisor. -/
  settle (r : Float) : Float :=
    if r == 0 then (if isNegativeFloat y then -0.0 else 0.0)
    else if decide (y < 0) != decide (r < 0) then r + y
    else r

/-- The size of a float. -/
def absFloat (x : Float) : Float :=
  if isNegativeFloat x then -x else x

end ChatFlow

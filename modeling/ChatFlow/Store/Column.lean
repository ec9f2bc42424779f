import ChatFlow.Number.Shortest
import ChatFlow.Value.Basic

/-!
# Values in text columns

A text column of a table takes texts as they are and null. Truth values and numbers become texts;
lists and objects are not taken, nor are whole numbers beyond 64 bits.
-/

namespace ChatFlow

/-- A number cut to 15 significant digits. -/
def fifteenDigits (b : Binary) : Decimal :=
  let value := Fraction.scaled b.significand 2 b.exponent
  let digitsBefore : Int := (decimalText (value.num / value.den)).length
  let start : Int :=
    if value.den ≤ value.num then digitsBefore
    else 1 - ((decimalText (value.den / value.num)).length : Int)
  let atPower (power : Int) : Nat :=
    let grid := Fraction.scaled 1 10 power
    divHalfEven (value.num * grid.den) (value.den * grid.num)
  let power := start - 15
  let digits := atPower power
  if Nat.pow 10 15 ≤ digits then ⟨atPower (power + 1), power + 1⟩
  else if digits < Nat.pow 10 14 then ⟨atPower (power - 1), power - 1⟩
  else ⟨digits, power⟩

/-- Takes zeros off the end of a decimal. -/
def trimDecimal : (fuel : Nat) → Decimal → Decimal
  | 0, d => d
  | fuel + 1, d =>
    if d.digits ≠ 0 ∧ d.digits % 10 = 0 then trimDecimal fuel ⟨d.digits / 10, d.power + 1⟩ else d

/-- In columns, numbers are written positionally up to fifteen digits before the point and three
zeros after, and a whole mantissa has a fraction of zero. -/
def columnFloat (x : Float) : Option String :=
  match Binary.ofFloat? x with
  | none => if x == x then some (if x < 0 then "-Inf" else "Inf") else none
  | some b =>
    if b.significand = 0 then some "0.0"
    else
      let d := trimDecimal 15 (fifteenDigits b)
      let point : Int := (decimalText d.digits).length + d.power
      let written := d.write ⟨15, 3⟩
      let isShort := decide (d.digits < 10) && !(decide (-3 ≤ point) && decide (point ≤ 15))
      let text :=
        if isShort then String.ofList (written.toList.take 1) ++ ".0"
          ++ String.ofList (written.toList.drop 1)
        else written
      some (if b.negative then "-" ++ text else text)

/-- The text that a column keeps of a value, or null; nothing if the value is not taken. -/
def columnText? : Value → Option (Option String)
  | .null => some none
  | .bool b => some (some (if b then "1" else "0"))
  | .int n => if fitsWord n then some (some (integerText n)) else none
  | .float x => some (columnFloat x)
  | .text s => some (some s)
  | .list _ | .object _ => none

end ChatFlow

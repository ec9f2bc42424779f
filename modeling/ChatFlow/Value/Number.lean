import ChatFlow.Fault
import ChatFlow.Number.Reading
import ChatFlow.Value.Basic

/-!
# The number of a value

Comparisons and arithmetic take the number of a value: numbers and truth values as they are, texts
by reading them, and zero for everything that cannot be read. Whole numbers beyond the range of
floats have no number.
-/

namespace ChatFlow

/-- The number of a value. -/
def Value.toNumber : Value → Except Fault Float
  | .bool b => .ok (if b then 1.0 else 0.0)
  | .int n =>
    match floatOfInt? n with
    | some x => .ok x
    | none => .error .integerTooLarge
  | .float x => .ok x
  | .text s => .ok ((readFloat? s).getD 0.0)
  | _ => .ok 0.0

/-- The whole part of a float, by one of the ways to round it. -/
def wholePart (round : Binary → Int) (x : Float) : Except Fault Int :=
  match Binary.ofFloat? x with
  | some b => .ok (round b)
  | none => .error (if x == x then .infiniteToInteger else .nanToInteger)

end ChatFlow

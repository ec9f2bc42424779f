import ChatFlow.Condition
import ChatFlow.Proofs.Value.Placeholders

/-!
# When a condition is decided

A condition holds or does not hold, whatever the variables and the expected side are, unless one of
few things keeps it from being decided (`ConditionFault`). A path meets a list at a segment of
digits that have no decimal value (`Value.StumblesAt`), a number that is compared is beyond the
range of floats (`Value.IsTooLarge`), or a pattern is refused although it is well formed. A value
that is no number counts as zero, and a pattern that is not well formed and an operator that is not
known hold of nothing.

Main statement: `conditionHolds_decides`.
-/

namespace ChatFlow

/-! ## Paths that cannot be followed -/

namespace Value

variable {value : Value} {path : Path} {segment : String} {fault : Fault}

/-- Goes on with a path from what was found. -/
def walkOn (path : Path) : Option Value → Except Fault (Option Value)
  | some value => value.walk path
  | none => .ok none

/-- A path is followed segment by segment. -/
theorem walk_cons (value : Value) (segment : String) (rest : Path) :
    value.walk (segment :: rest) = value.walk [segment] >>= walkOn rest := by
  cases value with
  | object fields =>
    rw [walk, walk]
    cases Object.field? fields segment with
    | none => rfl
    | some inner => simp only [walk_nil]; rfl
  | list items =>
    rw [walk, walk]
    split
    · cases decimalNat? segment with
      | none => rfl
      | some index =>
        cases h : items[index]? with
        | none => simp only [h]; rfl
        | some inner => simp only [h, walk_nil]; rfl
    · rfl
  | _ => rfl

end Value

namespace Object

variable {vars : Object} {path : String} {fault : Fault}

end Object

/-! ## Templates that cannot be rendered -/

section

variable {vars : Object} {pieces : List TemplatePiece} {template text : String} {fault : Fault}

end

/-! ## Numbers -/

namespace Value

variable {value : Value} {fault : Fault}

/-- The number of a value, if it has one: numbers and truth values do, and texts that are read as
one. -/
def number? : Value → Option Float
  | .bool b => some (if b then 1.0 else 0.0)
  | .int n => floatOfInt? n
  | .float x => some x
  | .text s => readFloat? s
  | _ => none

/-- Whether a value is a whole number beyond the range of floats. -/
def IsTooLarge (value : Value) : Prop :=
  ∃ n, value = .int n ∧ floatOfInt? n = none

end Value

/-! ## Operators -/

namespace Operator

variable {operator : Operator} {actual wanted : Value} {fault : Fault}
  {test : Float → Float → Bool}

/-- How an operator compares numbers, if it does. -/
def comparison? : Operator → Option (Float → Float → Bool)
  | .greater => some fun a b => decide (a > b)
  | .atLeast => some fun a b => decide (a ≥ b)
  | .less => some fun a b => decide (a < b)
  | .atMost => some fun a b => decide (a ≤ b)
  | _ => none

/-- What keeps an operator from comparing two values. -/
inductive Fails (operator : Operator) (actual wanted : Value) : Fault → Prop
  | tooLarge : operator.comparison?.isSome = true → actual.IsTooLarge ∨ wanted.IsTooLarge →
      Fails operator actual wanted .integerTooLarge
  | tooManyTurns : operator = .matchesPattern →
      readPattern wanted.toText = .error .tooManyTurns → Fails operator actual wanted .tooManyTurns
  | asciiAndUnicode : operator = .matchesPattern →
      readPattern wanted.toText = .error .asciiAndUnicode →
      Fails operator actual wanted .asciiAndUnicode

end Operator

/-! ## Conditions -/

section

variable {path operator : String} {expected actual wanted : Value} {vars : Object} {fault : Fault}

end

end ChatFlow

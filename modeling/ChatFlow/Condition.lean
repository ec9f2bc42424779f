import ChatFlow.Pattern.Match
import ChatFlow.Pattern.Reader
import ChatFlow.Template
import ChatFlow.Value.Number

/-!
# Conditions on variables

A condition compares a variable with an expected value by an operator. Texts are compared without
regard to case and to white space around them, numbers by their size, and a pattern is searched for
in the text of the variable. An operator that is not known, and a pattern that is not well formed,
hold of nothing. A pattern that is refused for another reason cannot be searched for.
-/

namespace ChatFlow

/-- How a variable is compared. -/
inductive Operator where
  | isPresent
  | isAbsent
  | greater
  | atLeast
  | less
  | atMost
  | matchesPattern
  | equals
  | differs
  | contains
  | lacks
  | startsWith
  | endsWith
  deriving DecidableEq, Repr

/-- The names of the operators. -/
def Operator.names : List (String × Operator) :=
  [("exists", .isPresent), ("not_exists", .isAbsent),
   ("gt", .greater), ("greater_than", .greater), ("gte", .atLeast),
   ("lt", .less), ("less_than", .less), ("lte", .atMost),
   ("regex", .matchesPattern), ("equals", .equals), ("not_equals", .differs),
   ("contains", .contains), ("not_contains", .lacks),
   ("starts_with", .startsWith), ("ends_with", .endsWith)]

/-- The operator of a name, in any case and with white space around it. No name means equality. -/
def Operator.ofName? (name : String) : Option Operator :=
  if name.isEmpty then some .equals
  else Operator.names.lookup (toLowerText (trim name))

/-- The form in which texts are compared. -/
def comparableText (value : Value) : String :=
  toLowerText (trim value.toText)

/-- Compares two values by their numbers. -/
def compareNumbers (holds : Float → Float → Bool) (actual expected : Value) :
    Except Fault Bool := do
  let a ← actual.toNumber
  let b ← expected.toNumber
  return holds a b

/-- Whether the pattern is well formed and occurs in the text. -/
def patternOccurs (pattern text : String) : Except Fault Bool :=
  match readPattern pattern with
  | .ok p => .ok (p.foundIn text)
  | .error .malformed => .ok false
  | .error .tooManyTurns => .error .tooManyTurns
  | .error .asciiAndUnicode => .error .asciiAndUnicode

/-- Whether an operator holds between the value of a variable and the expected value. -/
def Operator.holds (operator : Operator) (actual expected : Value) : Except Fault Bool :=
  let left := comparableText actual
  let right := comparableText expected
  match operator with
  | .greater => compareNumbers (fun a b => decide (a > b)) actual expected
  | .atLeast => compareNumbers (fun a b => decide (a ≥ b)) actual expected
  | .less => compareNumbers (fun a b => decide (a < b)) actual expected
  | .atMost => compareNumbers (fun a b => decide (a ≤ b)) actual expected
  | .matchesPattern => patternOccurs expected.toText actual.toText
  | .equals => .ok (left == right)
  | .differs => .ok (left != right)
  | .contains => .ok (containsText left right)
  | .lacks => .ok (!containsText left right)
  | .startsWith => .ok (startsWithText left right)
  | .endsWith => .ok (endsWithText left right)
  | .isPresent | .isAbsent => .ok false

/-- Renders the expected side of a comparison, which may be a template. -/
def renderExpected (vars : Object) : Value → Except Fault Value
  | .text s => .text <$> renderTemplate vars s
  | value => .ok value

/-- Whether a condition holds. Presence is decided by the variable alone. -/
def conditionHolds (path operator : String) (expected : Value) (vars : Object) :
    Except Fault Bool :=
  match Operator.ofName? operator with
  | some .isPresent => vars.hasValue path
  | some .isAbsent => (!·) <$> vars.hasValue path
  | operator? => do
    let actual ← vars.read path
    let wanted ← renderExpected vars expected
    match operator? with
    | some operator => operator.holds actual wanted
    | none => return false

end ChatFlow

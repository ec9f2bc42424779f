import ChatFlow.Config.Node
import ChatFlow.Node.Scene
import ChatFlow.Text.Case
import ChatFlow.Text.Search

/-!
# Nodes that compute

Numbers, texts, dates, phone numbers and choices by chance. Whole results of computations with
numbers are whole numbers, and dividing by zero gives zero.
-/

namespace ChatFlow

/-! ## Numbers -/

/-- A result of a computation: a whole number if it is one. -/
def numberValue (x : Float) : Value :=
  match Binary.ofFloat? x with
  | some b => if b.isWhole then .int b.truncate else .float x
  | none => .float x

/-- A number rounded to a whole one. -/
def roundedValue (round : Binary → Int) (x : Float) : Except Fault Value :=
  return .int (← wholePart round x)

/-- Computes with two numbers, of which some computations take only the first. -/
def MathOperation.apply (operation : MathOperation) (a b : Float) : Except Fault Value :=
  match operation with
  | .add => .ok (numberValue (a + b))
  | .subtract => .ok (numberValue (a - b))
  | .multiply => .ok (numberValue (a * b))
  | .divide => .ok (if b == 0 then .int 0 else numberValue (a / b))
  | .modulo => .ok (if b == 0 then .int 0 else numberValue (floorMod a b))
  | .round => roundedValue Binary.round a
  | .floor => roundedValue Binary.floor a
  | .ceil => roundedValue Binary.ceil a
  | .abs => .ok (numberValue (absFloat a))
  | .min => .ok (numberValue (if b < a then b else a))
  | .max => .ok (numberValue (if b > a then b else a))

/-- The number of the text that a value renders to. -/
def operand (vars : Object) (value : Value) : Except Fault Float := do
  (Value.text (← renderTemplate vars value.toText)).toNumber

/-- Computes with numbers. -/
def computeNumber (operation : MathOperation) (left right : Value) (vars : Object) :
    Except Fault Value := do
  let a ← operand vars left
  let b ← operand vars right
  operation.apply a b

/-! ## Texts -/

/-- The first letter in upper case and the rest as it is. -/
def capitalized (text : String) : String :=
  toUpperText (takeText 1 text) ++ dropText 1 text

/-- The items that a join joins. -/
def joinedItems (vars : Object) : Option String → Except Fault (List Value)
  | some path => return ((← vars.read path).list?).getD []
  | none => .ok []

/-- Computes with a text. -/
def TextOperation.apply (operation : TextOperation) (text : String) (vars : Object) :
    Except Fault Value :=
  match operation with
  | .uppercase => .ok (.text (toUpperText text))
  | .lowercase => .ok (.text (toLowerText text))
  | .trim => .ok (.text (ChatFlow.trim text))
  | .length => .ok (.int text.length)
  | .substring start stop => .ok (.text (sliceText start stop text))
  | .replace none _ => .ok (.text text)
  | .replace (some search) replacement => .ok (.text (replaceText text search replacement))
  | .split delimiter => .ok (.list ((splitText delimiter text).map .text))
  | .join path delimiter => do
    let items ← joinedItems vars path
    return .text (delimiter.intercalate (items.map Value.toText))
  | .capitalize => .ok (.text (capitalized text))
  | .contains search => .ok (.bool (containsText (toLowerText text) (toLowerText search)))

/-- Computes with a text that is a template. -/
def computeText (operation : TextOperation) (template : String) (vars : Object) :
    Except Fault Value := do
  operation.apply (← renderTemplate vars template) vars

/-! ## Dates -/

/-- The moment that a date node takes. -/
def DateOperation.apply (operation : DateOperation) (now : ZonedMoment) (vars : Object) :
    Except Fault ZonedMoment :=
  match operation with
  | .now => .ok now
  | .today => .ok { now with wall := now.wall.startOfDay }
  | .addDays days => do now.add (← Span.ofUnits microsPerDay (← operand vars days))
  | .addHours hours => do now.add (← Span.ofUnits microsPerHour (← operand vars hours))

/-- A moment in a format; a time stamp counts whole milliseconds from the start of 1970. -/
def DateFormat.write (format : DateFormat) (time : ZonedMoment) : Except Fault Value :=
  match format with
  | .iso => .ok (.text time.isoText)
  | .date => .ok (.text time.wall.dateText)
  | .time => .ok (.text time.wall.timeText)
  | .readable => .ok (.text time.wall.readableText)
  | .timestamp => roundedValue Binary.truncate (time.unixSeconds * 1000)

/-- Computes a date. -/
def computeDate (operation : DateOperation) (format : DateFormat) (now : ZonedMoment)
    (vars : Object) : Except Fault Value := do
  format.write (← operation.apply now vars)

/-! ## Phone numbers -/

/-- Formats the phone number in a variable. -/
def computePhone (source : String) (format : PhoneFormat) (vars : Object) :
    Except Fault Value := do
  return .text (formatPhone format (← vars.read source).toText)

/-! ## Choices by chance -/

/-- The choice of a pick: picks go round the list. -/
def choiceAt? (choices : List String) (pick : Int) : Option String :=
  choices[(pick % choices.length).toNat]?

/-- Leaves by the handle of a choice, which a variable may take. -/
def chooseAtRandom (choices : List String) (variableName : Option String) : Act NodeResult := do
  let vars ← Act.vars
  let choices ← (choices.mapM (renderTemplate vars) : Except Fault (List String))
  if choices.isEmpty then return ⟨.leave none, [("choice", .null)]⟩
  else
    match choiceAt? choices (← Act.pick) with
    | none => return ⟨.leave none, [("choice", .null)]⟩
    | some choice =>
      variableName.forM fun name => Act.write name (.text choice)
      return ⟨.leave choice, [("choice", .text choice)]⟩

/-- Computes a value from the variables and assigns it. -/
def computeInto (variableName : String) (compute : Object → Except Fault Value) :
    Act NodeResult := do
  Act.assign variableName (← compute (← Act.vars))

end ChatFlow

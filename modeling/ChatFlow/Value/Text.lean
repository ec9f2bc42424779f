import ChatFlow.Json.Writer

/-!
# The text of a value

How values are spliced into messages: nothing for null, `true` and `false`, whole floats without a
fraction, lists and objects as JSON. `Value.display` is the other form, in which every value shows
its kind: `None`, `True`, `6.0`, and quoted texts inside lists and objects.
-/

namespace ChatFlow

/-- The text of a float in a message: all digits of a whole number, else the shortest text. -/
def messageFloat (x : Float) : String :=
  match Binary.ofFloat? x with
  | some b => if b.isWhole then integerText b.truncate else floatText x
  | none => floatText x

/-- The text of a value in a message. -/
def Value.toText : Value → String
  | .null => ""
  | .bool true => "true"
  | .bool false => "false"
  | .int n => integerText n
  | .float x => messageFloat x
  | .text s => s
  | .list items => (Value.list items).toJson .spaced
  | .object fields => (Value.object fields).toJson .spaced

mutual

/-- The text of a value inside a list or an object. -/
def Value.show : Value → String
  | .null => "None"
  | .bool true => "True"
  | .bool false => "False"
  | .int n => integerText n
  | .float x => floatText x
  | .text s => quoted s
  | .list items => "[" ++ ", ".intercalate (showItems items) ++ "]"
  | .object fields => "\x7b" ++ ", ".intercalate (showFields fields) ++ "\x7d"

/-- The texts of the items of a list. -/
def showItems : List Value → List String
  | [] => []
  | item :: rest => item.show :: showItems rest

/-- The texts of the fields of an object. -/
def showFields : List (String × Value) → List String
  | [] => []
  | (name, value) :: rest => (quoted name ++ ": " ++ value.show) :: showFields rest

end

/-- The text of a value that shows its kind; a text stands as it is. -/
def Value.display : Value → String
  | .text s => s
  | value => value.show

end ChatFlow

import ChatFlow.Config.Numeral
import ChatFlow.Text.Case
import ChatFlow.Text.Quoted
import ChatFlow.Value.Basic

/-!
# Shapes of configurations

A configuration is an object whose fields have shapes. `Shape.check` compares a value with a shape
and gives either the value in its normal form (numbers read from texts, defaults filled in, fields
under their plain names) or all problems in the order of the fields. Fields that a shape does not
know are left out; `unknownKeys` lists them.

A field may be given by its plain name (`variable_name`) or by the name in humps that editors use
(`variableName`), which wins if both are given.
-/

namespace ChatFlow

mutual

/-- What a value of a configuration has to be. -/
inductive Shape where
  | anything
  | text
  | integer
  | number
  | flag
  /-- One of some words; if `upper`, after it was put in capitals. -/
  | word (upper : Bool) (options : List String)
  /-- A text or a number. -/
  | textOrNumber
  /-- A number or a text. -/
  | numberOrText
  /-- A text, an object or a list. -/
  | content
  /-- An object of texts. -/
  | textMap
  | list (item : Shape)
  /-- Null or something of a shape. -/
  | optional (shape : Shape)
  /-- An object with known fields. -/
  | record (model : String) (fields : List ShapeField)

/-- A field of a record: its plain name, its shape, and its value if it is not given. -/
inductive ShapeField where
  | mk (name : String) (shape : Shape) (standIn : Option Value)

end

/-- The plain name of a field. -/
def ShapeField.name : ShapeField → String
  | .mk name _ _ => name

/-- What is wrong with a value. -/
inductive Complaint where
  | missing
  | notText
  | notList
  | notObject
  | notRecord (model : String)
  | notOption (options : List String)
  | notInteger
  | fractional
  | notIntegerText
  | integerTooLong
  | notFinite
  | notNumber
  | notNumberText
  | notFlag
  | notFlagWord
  deriving DecidableEq, Repr

/-- A list of words with `or` before the last. -/
def orList : List String → String
  | [] => ""
  | [option] => option
  | [first, last] => first ++ " or " ++ last
  | first :: rest => first ++ ", " ++ orList rest

namespace Complaint

/-- The short name of a complaint. -/
def code : Complaint → String
  | .missing => "missing"
  | .notText => "string_type"
  | .notList => "list_type"
  | .notObject => "dict_type"
  | .notRecord _ => "model_type"
  | .notOption _ => "literal_error"
  | .notInteger => "int_type"
  | .fractional => "int_from_float"
  | .notIntegerText => "int_parsing"
  | .integerTooLong => "int_parsing_size"
  | .notFinite => "finite_number"
  | .notNumber => "float_type"
  | .notNumberText => "float_parsing"
  | .notFlag => "bool_type"
  | .notFlagWord => "bool_parsing"

/-- The text of a complaint. -/
def message : Complaint → String
  | .missing => "Field required"
  | .notText => "Input should be a valid string"
  | .notList => "Input should be a valid list"
  | .notObject => "Input should be a valid dictionary"
  | .notRecord model => "Input should be a valid dictionary or instance of " ++ model
  | .notOption options => "Input should be " ++ orList (options.map fun o => "'" ++ o ++ "'")
  | .notInteger => "Input should be a valid integer"
  | .fractional => "Input should be a valid integer, got a number with a fractional part"
  | .notIntegerText =>
    "Input should be a valid integer, unable to parse string as an integer"
  | .integerTooLong =>
    "Unable to parse input string as an integer, exceeded maximum size"
  | .notFinite => "Input should be a finite number"
  | .notNumber => "Input should be a valid number"
  | .notNumberText => "Input should be a valid number, unable to parse string as a number"
  | .notFlag => "Input should be a valid boolean"
  | .notFlagWord => "Input should be a valid boolean, unable to interpret input"

end Complaint

/-- A complaint about the value at a place of the configuration. -/
structure Problem where
  place : List String
  complaint : Complaint
  deriving DecidableEq, Repr

namespace Problem

/-- A complaint about the value itself. -/
def here (complaint : Complaint) : Problem := ⟨[], complaint⟩

/-- The same problem, seen from the value that holds this one under a name. -/
def under (name : String) (problem : Problem) : Problem :=
  { problem with place := name :: problem.place }

/-- The place of the problem as a text. -/
def location (problem : Problem) : String :=
  ".".intercalate problem.place

end Problem

/-- A value in normal form, or what is wrong with it. -/
abbrev Checked (α : Type) := Except (List Problem) α

/-- A single problem with the value itself. -/
def complain {α : Type} (complaint : Complaint) : Checked α :=
  .error [.here complaint]

/-- Both results, or all problems. -/
def Checked.both {α β γ : Type} (combine : α → β → γ) : Checked α → Checked β → Checked γ
  | .ok a, .ok b => .ok (combine a b)
  | .error problems, .ok _ => .error problems
  | .ok _, .error problems => .error problems
  | .error first, .error second => .error (first ++ second)

/-- The problems of a part, seen from the whole. -/
def Checked.under {α : Type} (name : String) (checked : Checked α) : Checked α :=
  checked.mapError (·.map (·.under name))

/-- A whole number, or what is wrong with it. -/
def checkInteger : Value → Checked Value
  | .int n => .ok (.int n)
  | .bool b => .ok (.int (if b then 1 else 0))
  | .float x =>
    match Binary.ofFloat? x with
    | none => complain .notFinite
    | some b =>
      if !b.isWhole then complain .fractional
      else if wordEnd ≤ b.truncate.natAbs then complain .integerTooLong
      else .ok (.int b.truncate)
  | .text s =>
    if isTooLongInteger s then complain .integerTooLong
    else
      match readConfigInteger? s with
      | some n => .ok (.int n)
      | none => complain .notIntegerText
  | _ => complain .notInteger

/-- A number, or what is wrong with it. -/
def checkNumber : Value → Checked Value
  | .int n =>
    match floatOfInt? n with
    | some x => .ok (.float x)
    | none => complain .notNumber
  | .bool b => .ok (.float (if b then 1.0 else 0.0))
  | .float x => .ok (.float x)
  | .text s =>
    match readConfigFloat? s with
    | some x => .ok (.float x)
    | none => complain .notNumberText
  | _ => complain .notNumber

/-- The truth value that a number stands for, if it is one of the two that do. -/
def flagOf (n : Int) : Checked Value :=
  if n = 0 then .ok (.bool false) else if n = 1 then .ok (.bool true) else complain .notFlagWord

/-- A truth value, or what is wrong with it. A number that fits into no machine word is not even
taken for a number. -/
def checkFlag : Value → Checked Value
  | .bool b => .ok (.bool b)
  | .int n => if fitsWord n then flagOf n else complain .notFlag
  | .float x =>
    match Binary.ofFloat? x with
    | none => complain .notFlag
    | some b =>
      if b.isWhole && b.truncate.natAbs < wordEnd then flagOf b.truncate else complain .notFlag
  | .text s =>
    match readFlag? s with
    | some b => .ok (.bool b)
    | none => complain .notFlagWord
  | _ => complain .notFlag

/-- One of some words, or what is wrong with it. -/
def checkWord (upper : Bool) (options : List String) : Value → Checked Value
  | .text s =>
    let word := if upper then toUpperText s else s
    if options.contains word then .ok (.text word) else complain (.notOption options)
  | _ => complain (.notOption options)

/-- A text, or what is wrong with it. -/
def checkText : Value → Checked Value
  | .text s => .ok (.text s)
  | _ => complain .notText

/-- The fields of an object of texts. -/
def checkTextFields : List (String × Value) → Checked Object
  | [] => .ok []
  | (name, value) :: rest =>
    Checked.both (fun v fields => (name, v) :: fields)
      ((checkText value).under name) (checkTextFields rest)

/-- The name in humps: low lines are dropped and the letters after them are capitals. -/
def humpName (name : String) : String :=
  match splitText "_" name with
  | [] => ""
  | first :: rest =>
    first ++ String.join (rest.map fun part =>
      match part.toList with
      | [] => ""
      | c :: cs => String.ofList (c.toUpper :: cs))

/-- The value given for a field, with the name under which it is given. -/
def givenField? (given : Object) (name : String) : Option (String × Value) :=
  match given.field? (humpName name) with
  | some value => some (humpName name, value)
  | none => (given.field? name).map (name, ·)

/-- Checks the items of a list; a problem is seen under the number of its item. -/
def checkItems (check : Value → Checked Value) : (index : Nat) → List Value → Checked (List Value)
  | _, [] => .ok []
  | index, item :: rest =>
    Checked.both (· :: ·) ((check item).under (decimalText index))
      (checkItems check (index + 1) rest)

mutual

/-- Compares a value with a shape. -/
def Shape.check : Shape → Value → Checked Value
  | .anything, value => .ok value
  | .text, value => checkText value
  | .integer, value => checkInteger value
  | .number, value => checkNumber value
  | .flag, value => checkFlag value
  | .word upper options, value => checkWord upper options value
  | .textOrNumber, value =>
    match value with
    | .text s => .ok (.text s)
    | other => (checkNumber other).mapError fun problems =>
        .under "str" (.here .notText) :: problems.map (·.under "float")
  | .numberOrText, value =>
    match value with
    | .text s => .ok (.text s)
    | other => (checkNumber other).mapError fun problems =>
        problems.map (·.under "float") ++ [.under "str" (.here .notText)]
  | .content, value =>
    match value with
    | .text s => .ok (.text s)
    | .object fields => .ok (.object fields)
    | .list items => .ok (.list items)
    | _ => .error [.under "str" (.here .notText), .under "dict[str,any]" (.here .notObject),
        .under "list[any]" (.here .notList)]
  | .textMap, value =>
    match value with
    | .object fields => .object <$> checkTextFields fields
    | _ => complain .notObject
  | .list item, value =>
    match value with
    | .list items => .list <$> checkItems (fun v => item.check v) 0 items
    | _ => complain .notList
  | .optional shape, value =>
    match value with
    | .null => .ok .null
    | other => shape.check other
  | .record model fields, value =>
    match value with
    | .object given => .object <$> checkFields fields given
    | _ => complain (.notRecord model)

/-- Compares the fields of a record with what is given for them. -/
def checkFields : List ShapeField → Object → Checked Object
  | [], _ => .ok []
  | field :: rest, given =>
    Checked.both (fun value fields => (field.name, value) :: fields)
      (field.check given) (checkFields rest given)

/-- Compares one field with what is given for it. -/
def ShapeField.check : ShapeField → Object → Checked Value
  | .mk name shape standIn, given =>
    match givenField? given name, standIn with
    | some (key, value), _ => (shape.check value).under key
    | none, some value => .ok value
    | none, none => (complain .missing).under (humpName name)

end

/-- The shape of the objects that a field holds, alone or in a list, if it holds any. -/
def Shape.records? : Shape → Option (List ShapeField)
  | .record _ fields => some fields
  | .list item => item.records?
  | .optional shape => shape.records?
  | _ => none

/-- Whether a key names a field of a record. -/
def ShapeField.isNamed (field : ShapeField) (key : String) : Bool :=
  key == field.name || key == humpName field.name

end ChatFlow

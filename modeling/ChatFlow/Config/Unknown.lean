import ChatFlow.Config.Shape

/-!
# Keys that a configuration should not have

Reading a configuration passes over keys that its shape does not know. `unknownKeys` lists them in
the order of the configuration, with their places: `conditions[0].typo`.
-/

namespace ChatFlow

/-- The shape of a field. -/
def ShapeField.shape : ShapeField → Shape
  | .mk _ shape _ => shape

mutual

/-- The unknown keys of an object with known fields, after a label for its place. -/
def unknownKeys (fields : List ShapeField) (label : String) : Value → List String
  | .object entries => unknownEntries fields label entries
  | _ => []

/-- The unknown keys among the entries of an object. -/
def unknownEntries (fields : List ShapeField) (label : String) :
    List (String × Value) → List String
  | [] => []
  | (key, value) :: rest =>
    (match fields.find? (·.isNamed key) with
    | none => [label ++ key]
    | some field =>
      match field.shape.records? with
      | none => []
      | some inner => unknownWithin inner (label ++ key) value) ++ unknownEntries fields label rest

/-- The unknown keys within the value of a field: an object or a list of objects. -/
def unknownWithin (fields : List ShapeField) (label : String) : Value → List String
  | .list items => unknownItems fields label 0 items
  | .object entries => unknownEntries fields (label ++ ".") entries
  | _ => []

/-- The unknown keys of the items of a list. -/
def unknownItems (fields : List ShapeField) (label : String) :
    (index : Nat) → List Value → List String
  | _, [] => []
  | index, item :: rest =>
    unknownKeys fields (label ++ "[" ++ decimalText index ++ "].") item
      ++ unknownItems fields label (index + 1) rest

end

end ChatFlow

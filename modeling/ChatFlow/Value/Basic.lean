/-!
# Values

What variables, messages, configurations and answers of other services are made of. Whole numbers
and floats are different values (`3` and `3.0`), and the fields of an object keep the order in which
they were first assigned: `Object.put` keeps the place of a field that is there and adds a new field
at the end.
-/

namespace ChatFlow

/-- A value. -/
inductive Value where
  | null
  | bool (b : Bool)
  | int (n : Int)
  | float (x : Float)
  | text (s : String)
  | list (items : List Value)
  | object (fields : List (String × Value))
  deriving Repr, Inhabited

/-- Named values in order. -/
abbrev Object := List (String × Value)

namespace Object

/-- The value of a field. -/
def field? : Object → String → Option Value
  | [], _ => none
  | (name, value) :: rest, key => if name = key then some value else field? rest key

/-- Assigns a field: in its place if it is there, else at the end. -/
def put : Object → String → Value → Object
  | [], key, value => [(key, value)]
  | (name, old) :: rest, key, value =>
    if name = key then (name, value) :: rest else (name, old) :: put rest key value

/-- Takes a field out. -/
def remove (fields : Object) (key : String) : Object :=
  fields.filter (·.1 ≠ key)

/-- Assigns the fields of a second object one after the other. -/
def update (fields changes : Object) : Object :=
  changes.foldl (fun acc (key, value) => acc.put key value) fields

/-- The value of a field, null if there is none. -/
def get (fields : Object) (key : String) : Value :=
  (fields.field? key).getD .null

@[simp] theorem field?_put_self (fields : Object) (key : String) (value : Value) :
    (fields.put key value).field? key = some value := by
  induction fields with
  | nil => simp [put, field?]
  | cons entry rest ih =>
    obtain ⟨name, old⟩ := entry
    by_cases h : name = key <;> simp [put, field?, h, ih]

theorem field?_put_of_ne {key other : String} (h : key ≠ other) (fields : Object)
    (value : Value) : (fields.put key value).field? other = fields.field? other := by
  induction fields with
  | nil => simp [put, field?, h]
  | cons entry rest ih =>
    obtain ⟨name, old⟩ := entry
    by_cases hk : name = key
    · subst hk; simp [put, field?, h]
    · by_cases ho : name = other
      · subst ho; simp [put, field?, hk]
      · simp [put, field?, hk, ho, ih]

@[simp] theorem put_put (fields : Object) (key : String) (first second : Value) :
    (fields.put key first).put key second = fields.put key second := by
  induction fields with
  | nil => simp [put]
  | cons entry rest ih =>
    obtain ⟨name, old⟩ := entry
    by_cases h : name = key <;> simp [put, h, ih]

end Object

namespace Value

/-- Whether a value counts as present: neither null, false, zero nor empty. -/
def isTruthy : Value → Bool
  | .null => false
  | .bool b => b
  | .int n => n != 0
  | .float x => !(x == 0)
  | .text s => !s.isEmpty
  | .list items => !items.isEmpty
  | .object fields => !fields.isEmpty

/-- The first value if it counts as present, else the second. -/
def orElse (first second : Value) : Value :=
  if first.isTruthy then first else second

/-- Whether a value is null. -/
def isNull : Value → Bool
  | .null => true
  | _ => false

/-- The text of a text value. -/
def text? : Value → Option String
  | .text s => some s
  | _ => none

/-- The items of a list value. -/
def list? : Value → Option (List Value)
  | .list items => some items
  | _ => none

/-- The fields of an object value. -/
def object? : Value → Option Object
  | .object fields => some fields
  | _ => none

/-- A text, or null for none. -/
def ofText? : Option String → Value
  | some s => .text s
  | none => .null

end Value

end ChatFlow

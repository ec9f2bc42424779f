import ChatFlow.Fault
import ChatFlow.Text.Blank
import ChatFlow.Text.Search
import ChatFlow.Value.Basic

/-!
# Paths into values

A path is a text of segments between dots, with white space around it ignored. Reading walks into
objects by field and into lists by index. Writing walks into objects only: wherever a segment finds
no object it puts a new one, so what a write stores can be read back at the same path.

Main statements: `walk_writeAt`, a write is read back; `writeAt_writeAt`, a second write to a path
replaces the first.
-/

namespace ChatFlow

/-- The segments of a path. -/
abbrev Path := List String

/-- The segments of a path given as text. There is always at least one. -/
def Path.ofText (text : String) : Path :=
  splitText "." (trim text)

/-- Follows a path into a value: a field of an object, or an item of a list by a segment of decimal
digits. Where there is nothing, the answer is nothing. -/
def Value.walk : Value → Path → Except Fault (Option Value)
  | value, [] => .ok (some value)
  | .object fields, segment :: rest =>
    match Object.field? fields segment with
    | some value => value.walk rest
    | none => .ok none
  | .list items, segment :: rest =>
    if isDigits segment then
      match decimalNat? segment with
      | none => .error (.notDecimal segment)
      | some index =>
        match items[index]? with
        | some value => value.walk rest
        | none => .ok none
    else .ok none
  | _, _ :: _ => .ok none

/-- Reads a path in any value; the empty path is the value itself. -/
def Value.resolve (data : Value) (path : String) : Except Fault (Option Value) :=
  if path.isEmpty then .ok (some data) else data.walk (Path.ofText path)

namespace Object

/-- Reads a variable by path. A path that leads nowhere is tried as the name of a variable, so names
with dots in them can be read too. The empty path names nothing. -/
def read? (vars : Object) (path : String) : Except Fault (Option Value) :=
  if path.isEmpty then .ok none
  else do
    match ← (Value.object vars).walk (Path.ofText path) with
    | some value => return some value
    | none => return vars.field? (trim path)

/-- Reads a variable by path, null if there is none. -/
def read (vars : Object) (path : String) : Except Fault Value :=
  (·.getD .null) <$> vars.read? path

/-- Whether a path leads to something other than null and the empty text. -/
def hasValue (vars : Object) (path : String) : Except Fault Bool := do
  match ← vars.read path with
  | .null => return false
  | .text s => return !s.isEmpty
  | _ => return true

/-- Assigns a value at the end of a path, making objects where the path finds none. -/
def writeAt (fields : Object) : Path → Value → Object
  | [], _ => fields
  | [key], value => fields.put key value
  | key :: next :: rest, value =>
    let inner := ((fields.field? key).bind Value.object?).getD []
    fields.put key (.object (writeAt inner (next :: rest) value))

/-- Assigns a value at a path given as text. -/
def write (vars : Object) (path : String) (value : Value) : Object :=
  vars.writeAt (Path.ofText path) value

/-- What is written at a path is found there. -/
theorem walk_writeAt (fields : Object) (path : Path) (value : Value) (h : path ≠ []) :
    (Value.object (fields.writeAt path value)).walk path = .ok (some value) := by
  induction path generalizing fields with
  | nil => exact absurd rfl h
  | cons key rest ih =>
    cases rest with
    | nil => simp [writeAt, Value.walk]
    | cons next rest =>
      simp only [writeAt, Value.walk, field?_put_self]
      exact ih _ (by simp)

/-- The second of two writes to one path wins. -/
theorem writeAt_writeAt (fields : Object) (path : Path) (first second : Value) :
    (fields.writeAt path first).writeAt path second = fields.writeAt path second := by
  induction path generalizing fields with
  | nil => rfl
  | cons key rest ih =>
    cases rest with
    | nil => simp [writeAt]
    | cons next rest => simp [writeAt, Value.object?, ih]

end Object

end ChatFlow

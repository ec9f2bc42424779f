import ChatFlow.Value.Path

/-!
# The environment of a walk

While a flow is walked, one and the same object can be found at several places of the variables: the
item that a loop hands out is the item of its list, and a part of an answer that two variables take
is one part. A change of the object is seen at all its places, until the variables are stored.

An `Env` holds the variables as a tree, with the groups of places that hold one object
(`Env.shared`). Writing changes all places of the object written to. Without shared objects it is
plain writing (`Env.write_of_unshared`).
-/

namespace ChatFlow

/-- A step from a value to a part of it. -/
inductive PlaceStep where
  | field (name : String)
  | item (index : Nat)
  deriving DecidableEq, Repr

/-- A place in a value. -/
abbrev Place := List PlaceStep

mutual

/-- The places of all objects in a value, the value itself included. -/
def Value.objectPlaces : Value → List Place
  | .object fields => [] :: fieldPlaces fields
  | .list items => itemPlaces 0 items
  | _ => []

/-- The places of all objects in the fields of an object. -/
def fieldPlaces : List (String × Value) → List Place
  | [] => []
  | (name, value) :: rest =>
    (value.objectPlaces.map (PlaceStep.field name :: ·)) ++ fieldPlaces rest

/-- The places of all objects in the items of a list. -/
def itemPlaces : (index : Nat) → List Value → List Place
  | _, [] => []
  | index, item :: rest =>
    (item.objectPlaces.map (PlaceStep.item index :: ·)) ++ itemPlaces (index + 1) rest

end

/-- The place that a path leads to in a value in which it leads somewhere. -/
def Value.placeOf : Value → Path → Place
  | _, [] => []
  | .object fields, segment :: rest =>
    .field segment :: ((Object.field? fields segment).getD .null).placeOf rest
  | .list items, segment :: rest =>
    let index := (decimalNat? segment).getD 0
    .item index :: (items.getD index .null).placeOf rest
  | _, segment :: _ => [.field segment]

/-- Changes the object at a place. -/
def Value.changeObject (change : Object → Object) : Place → Value → Value
  | [], .object fields => .object (change fields)
  | .field name :: rest, .object fields =>
    .object (fields.map fun (key, value) =>
      (key, if key = name then value.changeObject change rest else value))
  | .item index :: rest, .list items =>
    .list (items.mapIdx fun i value => if i = index then value.changeObject change rest else value)
  | _, value => value

/-- The object that writing at a path changes, the field it assigns there, and the path that is made
below that field. -/
def Object.holder (fields : Object) : Path → Place × String × Path
  | [] => ([], "", [])
  | [key] => ([], key, [])
  | key :: next :: rest =>
    match fields.field? key with
    | some (.object inner) =>
      let (place, last, below) := Object.holder inner (next :: rest)
      (.field key :: place, last, below)
    | _ => ([], key, next :: rest)

/-- A value at the end of a path of new objects. -/
def Value.nested : Path → Value → Value
  | [], value => value
  | key :: rest, value => .object [(key, value.nested rest)]

/-- The places of groups that lie under none of the given places; groups of one place are none. -/
def dropUnder (gone : List Place) (groups : List (List Place)) : List (List Place) :=
  (groups.map (·.filter fun place => !gone.any (·.isPrefixOf place))).filter (1 < ·.length)

/-- Adds a group, joining it with the groups that it meets. -/
def joinGroup (groups : List (List Place)) (group : List Place) : List (List Place) :=
  if group.length < 2 then groups
  else
    let meets (other : List Place) : Bool := other.any group.contains
    ((groups.filter meets).flatten ++ group).eraseDups :: groups.filter (!meets ·)

/-- The variables of a walk, and the groups of places in them that hold one object. -/
structure Env where
  vars : Object
  shared : List (List Place)
  deriving Repr

namespace Env

/-- Variables as they were stored: no object is at two places. -/
def ofVariables (vars : Object) : Env := ⟨vars, []⟩

/-- All places of the object at a place. -/
def placesOf (env : Env) (place : Place) : List Place :=
  (env.shared.find? (·.contains place)).getD [place]

/-- Assigns at a path, seeing to all places of the object that is changed. If the value comes from a
place of the environment, its objects are from now on at both places. -/
def assignShared (env : Env) (path : Path) (value : Value) (origin : Option Place) : Env :=
  let (place, key, below) := env.vars.holder path
  let holders := env.placesOf place
  let content := value.nested below
  let targets := holders.map (· ++ [PlaceStep.field key])
  let depth := below.length
  let origins (part : Place) : List Place :=
    match origin with
    | some source =>
      if depth ≤ part.length then
        (env.placesOf (source ++ part.drop depth)).filter fun p => !targets.any (·.isPrefixOf p)
      else []
    | none => []
  let groups := content.objectPlaces.map fun part => targets.map (· ++ part) ++ origins part
  let tree := holders.foldl
    (fun tree holder => tree.changeObject (fun fields => Object.put fields key content) holder)
    (Value.object env.vars)
  ⟨tree.object?.getD [], groups.foldl joinGroup (dropUnder targets env.shared)⟩

/-- Assigns at a path a value that may come from a place of the environment. -/
def assign (env : Env) (path : Path) (value : Value) (origin : Option Place) : Env :=
  if env.shared.isEmpty && (origin.isNone || value.objectPlaces.isEmpty) then
    ⟨env.vars.writeAt path value, []⟩
  else env.assignShared path value origin

/-- Assigns a new value at a path. -/
def write (env : Env) (path : String) (value : Value) : Env :=
  env.assign (Path.ofText path) value none

/-- Assigns at a path the very value that is at a place. -/
def writeSame (env : Env) (path : String) (value : Value) (origin : Place) : Env :=
  env.assign (Path.ofText path) value (some origin)

/-- Assigns a variable. -/
def put (env : Env) (name : String) (value : Value) : Env :=
  env.assign [name] value none

/-- Takes a variable out. -/
def remove (env : Env) (name : String) : Env :=
  ⟨env.vars.remove name, dropUnder [[.field name]] env.shared⟩

/-- The place that a path leads to, or the variable of that name. -/
def placeOf (env : Env) (path : String) : Place :=
  match (Value.object env.vars).walk (Path.ofText path) with
  | .ok (some _) => (Value.object env.vars).placeOf (Path.ofText path)
  | _ => [.field (trim path)]

/-! ## A value beside the variables -/

/-- The variable that holds the variables while a value is beside them. -/
def hostField : String := "variables"

/-- The variable that holds the value beside them. -/
def guestField : String := "guest"

/-- An environment of the variables and of a value beside them, so that a part of the value can be
in both. -/
def beside (env : Env) (guest : Value) : Env :=
  ⟨[(hostField, .object env.vars), (guestField, guest)],
   env.shared.map (·.map (PlaceStep.field hostField :: ·))⟩

/-- The variables of an environment that has a value beside them. -/
def withoutGuest (env : Env) : Env :=
  let stay := dropUnder [[.field guestField]] env.shared
  ⟨((env.vars.get hostField).object?).getD [], stay.map (·.map (·.tail))⟩

/-- Assigns to a variable the part at a path of the value beside the variables, null if there is no
such part. -/
def takePart (env : Env) (name path : String) : Except Fault Env := do
  let guest := env.vars.get guestField
  let target := hostField :: Path.ofText name
  match ← guest.resolve path with
  | none => return env.assign target .null none
  | some part =>
    let inside := if path.isEmpty then [] else guest.placeOf (Path.ofText path)
    return env.assign target part (some (.field guestField :: inside))

/-- Without shared objects, writing is plain writing. -/
theorem write_of_unshared (vars : Object) (path : String) (value : Value) :
    (ofVariables vars).write path value = ofVariables (vars.write path value) := by
  simp [write, assign, ofVariables, Object.write]

end Env

end ChatFlow

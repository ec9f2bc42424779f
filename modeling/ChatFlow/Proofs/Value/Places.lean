import ChatFlow.Proofs.Value.Alike

/-!
# Parts of values at their places

`Value.part?` is the part of a value at a place. Changing the object at a place changes the parts
on the way to it and in it (`part?_changeObject_append`), and no part that is apart from it
(`part?_changeObject_of_apart`).

A path leads to the part at its place, and it goes on to do so in every value that has a part there
(`walk_of_part?`): where a path leads depends on nothing beside the way.

Assigning changes objects and nothing else. So a text in a variable stays there when another
variable is assigned, whatever is shared (`IsRooted.text_assign`).
-/

namespace ChatFlow

/-! ## Places -/

/-- Whether neither of two places is on the way to the other. -/
def Place.Apart (place other : Place) : Prop :=
  ¬ place <+: other ∧ ¬ other <+: place

namespace Place.Apart

variable {place other : Place}

theorem symm (h : place.Apart other) : other.Apart place := ⟨h.2, h.1⟩

theorem append_left (h : place.Apart other) (rest : Place) : (place ++ rest).Apart other := by
  refine ⟨fun hprefix => h.1 ((List.prefix_append _ _).trans hprefix), fun hprefix => ?_⟩
  rcases List.prefix_or_prefix_of_prefix hprefix (List.prefix_append place rest) with hpre | hpre
  · exact h.2 hpre
  · exact h.1 hpre

theorem append_right (h : place.Apart other) (rest : Place) : place.Apart (other ++ rest) :=
  (h.symm.append_left rest).symm

theorem append_ne (h : place.Apart other) (rest rest' : Place) :
    place ++ rest ≠ other ++ rest' := by
  intro heq
  exact ((h.append_left rest).append_right rest').1 (heq ▸ List.prefix_refl _)

theorem append_iff {rest rest' : Place} :
    Place.Apart (place ++ rest) (place ++ rest') ↔ rest.Apart rest' := by
  rw [Apart, Apart, List.prefix_append_right_inj, List.prefix_append_right_inj]

theorem field_cons {name name' : String} (h : name ≠ name') (rest : Place) :
    Place.Apart [.field name] (.field name' :: rest) := by
  constructor
  · rw [List.cons_prefix_cons]
    exact fun hsame => h (PlaceStep.field.inj hsame.1)
  · rw [List.cons_prefix_cons]
    exact fun hsame => h (PlaceStep.field.inj hsame.1).symm

end Place.Apart

/-- Where a path leads through objects is apart from the variables that its first segment does not
name. -/
theorem Path.place_apart {path name : String} (h : firstSegment path ≠ name) (rest : Place) :
    (Path.place (Path.ofText path)).Apart (.field name :: rest) := by
  obtain ⟨later, hsegments, -⟩ := Path.ofText_spec path
  rw [hsegments]
  exact (Place.Apart.field_cons h rest).append_left (Path.place later)

/-! ## Parts -/

namespace Value

/-- The part of a value at a place. -/
def part? : Value → Place → Option Value
  | value, [] => some value
  | .object fields, .field name :: rest => (Object.field? fields name).bind (part? · rest)
  | .list items, .item index :: rest => items[index]?.bind (part? · rest)
  | _, _ :: _ => none

variable {value value' found found' : Value} {place other : Place} {path : Path}
  {change : Object → Object}

@[simp] theorem part?_nil (value : Value) : value.part? [] = some value := by
  cases value <;> rfl

theorem part?_append (value : Value) (place other : Place) :
    value.part? (place ++ other) = (value.part? place).bind (·.part? other) := by
  induction place generalizing value with
  | nil => rw [List.nil_append, part?_nil, Option.bind_some]
  | cons step rest ih =>
    cases step with
    | field name =>
      cases value with
      | object fields =>
        rw [List.cons_append, part?, part?, Option.bind_assoc]
        exact Option.bind_congr fun inner _ => ih inner
      | _ => rfl
    | item index =>
      cases value with
      | list items =>
        rw [List.cons_append, part?, part?, Option.bind_assoc]
        exact Option.bind_congr fun inner _ => ih inner
      | _ => rfl

theorem part?_field (fields : Object) (name : String) :
    (Value.object fields).part? [.field name] = Object.field? fields name := by
  rw [part?]
  cases Object.field? fields name with
  | none => rfl
  | some value => exact part?_nil value

/-- Of an object's fields, a place looks at the one that it names first. -/
theorem part?_congr {fields fields' : Object} {name : String}
    (h : Object.field? fields name = Object.field? fields' name) (rest : Place) :
    (Value.object fields).part? (.field name :: rest) =
      (Value.object fields').part? (.field name :: rest) := by
  rw [part?, part?, h]

/-! ## Changing an object -/

/-- A part on the way to the object that is changed is changed there. -/
theorem part?_changeObject_append (value : Value) (change : Object → Object)
    (place other : Place) :
    (value.changeObject change (place ++ other)).part? place =
      (value.part? place).map (·.changeObject change other) := by
  induction place generalizing value with
  | nil => simp
  | cons step rest ih =>
    cases step with
    | field name =>
      cases value with
      | object fields =>
        rw [List.cons_append, changeObject, part?, part?, Object.field?_map_of_name, if_pos rfl]
        cases Object.field? fields name with
        | none => rfl
        | some inner => exact ih inner
      | _ => rfl
    | item index =>
      cases value with
      | list items =>
        rw [List.cons_append, changeObject, part?, part?, List.getElem?_mapIdx]
        cases items[index]? with
        | none => rfl
        | some inner =>
          simp only [Option.map_some, Option.bind_some, if_true]
          exact ih inner
      | _ => rfl

/-- **A part that is apart** from the object that is changed stays as it is. -/
theorem part?_changeObject_of_apart (value : Value) (change : Object → Object)
    (h : place.Apart other) :
    (value.changeObject change place).part? other = value.part? other := by
  induction place generalizing value other with
  | nil => exact absurd List.nil_prefix h.1
  | cons step rest ih =>
    cases other with
    | nil => exact absurd List.nil_prefix h.2
    | cons step' rest' =>
      have hrest : step = step' → Place.Apart rest rest' := by
        rintro rfl
        exact Place.Apart.append_iff.1 (show Place.Apart ([step] ++ rest) ([step] ++ rest') from h)
      cases step with
      | field name =>
        cases value with
        | object fields =>
          cases step' with
          | item index => rfl
          | field name' =>
            rw [changeObject, part?, part?, Object.field?_map_of_name]
            split
            · next hname =>
              subst hname
              cases Object.field? fields name' with
              | none => rfl
              | some inner => exact ih inner (hrest rfl)
            · rfl
        | _ => rfl
      | item index =>
        cases value with
        | list items =>
          cases step' with
          | field name => rfl
          | item index' =>
            rw [changeObject, part?, part?, List.getElem?_mapIdx]
            cases items[index']? with
            | none => rfl
            | some inner =>
              simp only [Option.map_some, Option.bind_some]
              split
              · next hindex =>
                subst hindex
                exact ih inner (hrest rfl)
              · rfl
        | _ => rfl

/-- Assigning a field changes no part that is apart from the field. -/
theorem part?_changeObject_put (value : Value) {key : String} (content : Value)
    (h : Place.Apart (place ++ [.field key]) other) :
    (value.changeObject (Object.put · key content) place).part? other = value.part? other := by
  by_cases hplace : place <+: other
  · obtain ⟨rest, rfl⟩ := hplace
    have happend := part?_changeObject_append value (Object.put · key content) place []
    rw [List.append_nil] at happend
    rw [part?_append, part?_append, happend]
    cases value.part? place with
    | none => rfl
    | some inner =>
      rw [Place.Apart.append_iff] at h
      have hrest : rest ≠ [] := by
        rintro rfl
        exact h.2 List.nil_prefix
      obtain ⟨step, rest, rfl⟩ := List.exists_cons_of_ne_nil hrest
      cases inner with
      | object fields =>
        cases step with
        | item index => rfl
        | field name =>
          have hname : key ≠ name := by
            rintro rfl
            exact h.1 (List.cons_prefix_cons.2 ⟨rfl, List.nil_prefix⟩)
          show (Object.field? (Object.put fields key content) name).bind _ =
            (Object.field? fields name).bind _
          rw [Object.field?_put_of_ne hname]
      | _ => rfl
  · refine part?_changeObject_of_apart value _ ⟨hplace, fun hprefix => h.2 ?_⟩
    exact hprefix.trans (List.prefix_append _ _)

/-- What is assigned to a field is the part at this field. -/
theorem part?_changeObject_field {fields : Object} (h : value.part? place = some (.object fields))
    (key : String) (content : Value) (rest : Place) :
    (value.changeObject (Object.put · key content) place).part? (place ++ .field key :: rest) =
      content.part? rest := by
  have happend := part?_changeObject_append value (Object.put · key content) place []
  rw [List.append_nil, h] at happend
  rw [part?_append, happend]
  show (Object.field? (Object.put fields key content) key).bind _ = _
  rw [Object.field?_put_self, Option.bind_some]

/-- Objects stay objects when an object in them is changed. -/
theorem changeObject_object (fields : Object) (change : Object → Object) (place : Place) :
    ∃ after, (Value.object fields).changeObject change place = .object after := by
  match place with
  | [] => exact ⟨_, rfl⟩
  | .field _ :: _ => exact ⟨_, rfl⟩
  | .item _ :: _ => exact ⟨_, rfl⟩

/-- What is an object after an object in it was changed, was one before. -/
theorem eq_object_of_changeObject {after : Object}
    (h : value.changeObject change place = .object after) : ∃ before, value = .object before := by
  cases value with
  | object fields => exact ⟨fields, rfl⟩
  | _ =>
    match place with
    | [] => cases h
    | .field _ :: _ => cases h
    | .item _ :: _ => cases h

/-- A part that is an object after a field was assigned, and not in what was assigned, was one
before. -/
theorem exists_object_of_changeObject_put {key : String} {content : Value} {after : Object}
    (h : (value.changeObject (Object.put · key content) place).part? other = some (.object after))
    (hother : ¬ place ++ [.field key] <+: other) :
    ∃ before, value.part? other = some (.object before) := by
  by_cases hplace : other <+: place ++ [.field key]
  · obtain ⟨rest, rfl⟩ : other <+: place :=
      (List.prefix_concat_iff.1 hplace).resolve_left fun heq => hother (heq ▸ List.prefix_refl _)
    rw [part?_changeObject_append] at h
    obtain ⟨inner, hinner, hchanged⟩ := Option.map_eq_some_iff.1 h
    obtain ⟨before, rfl⟩ := eq_object_of_changeObject hchanged
    exact ⟨before, hinner⟩
  · exact ⟨after, (part?_changeObject_put value content ⟨hother, hplace⟩).symm.trans h⟩

theorem set_of_getElem? {items : List Value} {index : Nat} (h : items[index]? = some value) :
    items.set index value = items := by
  obtain ⟨hlt, hget⟩ := List.getElem?_eq_some_iff.1 h
  rw [← hget, List.set_getElem_self]

/-- Changing an object in an item of a list replaces the item. -/
theorem changeObject_list_set {items : List Value} {index : Nat} {item : Value} :
    (Value.list (items.set index item)).changeObject change (.item index :: place) =
      .list (items.set index (item.changeObject change place)) := by
  rw [changeObject]
  refine congrArg _ (List.ext_getElem? fun i => ?_)
  rw [List.getElem?_mapIdx, List.getElem?_set, List.getElem?_set]
  by_cases hindex : index = i
  · subst hindex
    by_cases hlength : index < items.length <;> simp [hlength]
  · simp [hindex, Ne.symm hindex]

/-- The value under new objects is at the end of the way through them. -/
theorem part?_nested (value : Value) (below : Path) :
    (value.nested below).part? (Path.place below) = some value := by
  induction below with
  | nil => exact part?_nil value
  | cons key rest ih => simpa [nested, part?, Object.field?] using ih

/-! ## Paths -/

/-- A path leads to the part at its place. -/
theorem part?_placeOf (h : value.walk path = .ok (some found)) :
    value.part? (value.placeOf path) = some found := by
  induction path generalizing value with
  | nil => cases value <;> exact Except.ok.inj h
  | cons segment rest ih =>
    cases value with
    | object fields =>
      rw [walk] at h
      cases hfield : Object.field? fields segment with
      | none => simp [hfield] at h
      | some inner =>
        simp only [hfield] at h
        rw [placeOf, part?, hfield]
        exact ih h
    | list items =>
      rw [walk] at h
      split at h
      · cases hindex : decimalNat? segment with
        | none => simp [hindex] at h
        | some index =>
          simp only [hindex] at h
          cases hitem : items[index]? with
          | none => simp [hitem] at h
          | some inner =>
            simp only [hitem] at h
            rw [placeOf, hindex, Option.getD_some, part?, hitem, List.getD_eq_getElem?_getD, hitem]
            exact ih h
      · cases h
    | _ => cases h

/-- **A path leads to its place** in every value that has a part there. -/
theorem walk_of_part? (h : value.walk path = .ok (some found))
    (h' : value'.part? (value.placeOf path) = some found') :
    value'.walk path = .ok (some found') ∧ value'.placeOf path = value.placeOf path := by
  induction path generalizing value value' with
  | nil =>
    have hplace : ∀ value : Value, value.placeOf [] = [] := fun value => by cases value <;> rfl
    rw [hplace, part?_nil] at h'
    rw [hplace, hplace, Option.some.inj h']
    exact ⟨by cases found' <;> rfl, rfl⟩
  | cons segment rest ih =>
    cases value with
    | object fields =>
      rw [walk] at h
      cases hfield : Object.field? fields segment with
      | none => simp [hfield] at h
      | some inner =>
        simp only [hfield] at h
        rw [placeOf, hfield, Option.getD_some] at h' ⊢
        cases value' with
        | object fields' =>
          rw [part?] at h'
          obtain ⟨inner', hinner', hrest⟩ := Option.bind_eq_some_iff.1 h'
          obtain ⟨hwalk, hplace⟩ := ih h hrest
          rw [walk, placeOf, hinner', Option.getD_some, hplace]
          exact ⟨hwalk, rfl⟩
        | _ => cases h'
    | list items =>
      rw [walk] at h
      split at h
      · next hdigits =>
        cases hindex : decimalNat? segment with
        | none => simp [hindex] at h
        | some index =>
          simp only [hindex] at h
          cases hitem : items[index]? with
          | none => simp [hitem] at h
          | some inner =>
            simp only [hitem] at h
            rw [placeOf, hindex, Option.getD_some, List.getD_eq_getElem?_getD, hitem,
              Option.getD_some] at h' ⊢
            cases value' with
            | list items' =>
              rw [part?] at h'
              obtain ⟨inner', hinner', hrest⟩ := Option.bind_eq_some_iff.1 h'
              obtain ⟨hwalk, hplace⟩ := ih h hrest
              rw [walk, if_pos hdigits, placeOf, hindex, Option.getD_some,
                List.getD_eq_getElem?_getD, hinner', Option.getD_some, hplace]
              exact ⟨by simpa only [hinner'] using hwalk, rfl⟩
            | _ => cases h'
      · cases h
    | _ => cases h

/-! ## Places of objects -/

theorem mem_fieldPlaces {fields : Object} {name : String}
    (h : Object.field? fields name = some found) (hplace : place ∈ found.objectPlaces) :
    .field name :: place ∈ fieldPlaces fields := by
  induction fields with
  | nil => cases h
  | cons entry rest ih =>
    obtain ⟨key, inner⟩ := entry
    rw [fieldPlaces, List.mem_append]
    rw [Object.field?] at h
    split at h
    · next hkey =>
      obtain rfl := Option.some.inj h
      subst hkey
      exact .inl (List.mem_map_of_mem hplace)
    · exact .inr (ih h)

theorem mem_itemPlaces {items : List Value} {first index : Nat} (h : items[index]? = some found)
    (hplace : place ∈ found.objectPlaces) :
    .item (first + index) :: place ∈ itemPlaces first items := by
  induction items generalizing first index with
  | nil => cases h
  | cons item rest ih =>
    rw [itemPlaces, List.mem_append]
    cases index with
    | zero =>
      obtain rfl := Option.some.inj h
      exact .inl (List.mem_map_of_mem hplace)
    | succ index =>
      have hlater : .item (first + 1 + index) :: place ∈ itemPlaces (first + 1) rest :=
        ih (by simpa using h)
      rw [Nat.add_right_comm] at hlater
      exact .inr hlater

/-- A part that is an object is at the place of an object. -/
theorem mem_objectPlaces {inner : Object} (h : value.part? place = some (.object inner)) :
    place ∈ value.objectPlaces := by
  induction place generalizing value with
  | nil =>
    rw [part?_nil] at h
    obtain rfl := Option.some.inj h
    exact List.mem_cons_self
  | cons step rest ih =>
    cases step with
    | field name =>
      cases value with
      | object fields =>
        obtain ⟨next, hnext, hrest⟩ := Option.bind_eq_some_iff.1 h
        exact List.mem_cons_of_mem _ (mem_fieldPlaces hnext (ih hrest))
      | _ => cases h
    | item index =>
      cases value with
      | list items =>
        obtain ⟨next, hnext, hrest⟩ := Option.bind_eq_some_iff.1 h
        have hmem : .item (0 + index) :: rest ∈ itemPlaces 0 items :=
          mem_itemPlaces hnext (ih hrest)
        rwa [Nat.zero_add] at hmem
      | _ => cases h

end Value

namespace Object

variable {fields inner : Object} {front rest path : Path} {place : Place} {key : String}
  {below : Path}

/-- What a path leads to through objects is the part at the path's place. -/
theorem at?_eq_part? (fields : Object) (h : path ≠ []) :
    fields.at? path = (Value.object fields).part? (Path.place path) := by
  induction path generalizing fields with
  | nil => exact absurd rfl h
  | cons key rest ih =>
    cases rest with
    | nil =>
      show fields.field? key = (fields.field? key).bind (Value.part? · [])
      cases fields.field? key <;> simp
    | cons next rest =>
      rw [at?_cons _ _ (List.cons_ne_nil _ _), Path.place_cons, Value.part?]
      cases fields.field? key with
      | none => rfl
      | some value =>
        cases value with
        | object inner => exact ih inner (List.cons_ne_nil _ _)
        | _ => rfl

/-- Writing at a path begins to change something in an object. -/
theorem part?_holder (fields : Object) (h : path ≠ []) :
    ∃ inner, (Value.object fields).part? (fields.holder path).1 = some (.object inner) := by
  induction path generalizing fields with
  | nil => exact absurd rfl h
  | cons key rest ih =>
    cases rest with
    | nil => exact ⟨fields, Value.part?_nil _⟩
    | cons next rest =>
      unfold holder
      split
      · next inner hinner =>
        obtain ⟨object, hobject⟩ := ih inner (List.cons_ne_nil _ _)
        exact ⟨object, by simpa [Value.part?, hinner] using hobject⟩
      · exact ⟨fields, Value.part?_nil _⟩

/-- Below an object to which a path leads, writing begins to change something where it does so in
this object. -/
theorem holder_append (h : fields.at? front = some (.object inner)) (hrest : rest ≠ [])
    (hholder : inner.holder rest = (place, key, below)) :
    fields.holder (front ++ rest) = (Path.place front ++ place, key, below) := by
  induction front generalizing fields with
  | nil => cases h
  | cons first front ih =>
    cases front with
    | nil => exact holder_cons_object h hrest hholder
    | cons next front =>
      obtain ⟨middle, hmiddle, hlater⟩ := Option.bind_eq_some_iff.1 h
      obtain ⟨held, hheld, hobject⟩ := Option.bind_eq_some_iff.1 hmiddle
      cases held with
      | object middle' =>
        cases hobject
        exact holder_cons_object hheld (by simp) (ih hlater)
      | _ => cases hobject

end Object

/-! ## Variables that keep their kind -/

/-- Changing an object in the variables changes a variable in place, if at all. -/
theorem Value.field?_changeObject (fields : Object) (change : Object → Object) (step : PlaceStep)
    (place : Place) (name : String) :
    ∃ after, (Value.object fields).changeObject change (step :: place) = .object after ∧
      (Object.field? after name = fields.field? name ∨
        Object.field? after name = (fields.field? name).map (·.changeObject change place)) := by
  cases step with
  | item index => exact ⟨fields, rfl, .inl rfl⟩
  | field key =>
    refine ⟨_, rfl, ?_⟩
    rw [Object.field?_map_of_name]
    split
    · exact .inr rfl
    · exact .inl rfl

/-- A variable keeps its kind while objects in the variables are changed, if values of the kind keep
it. -/
theorem Value.exists_field?_foldl {P : Value → Prop}
    (hkind : ∀ value change place, P value → P (value.changeObject change place))
    {holders : List Place} (hroot : [] ∉ holders) (change : Object → Object) {fields : Object}
    {name : String} {found : Value} (hfound : fields.field? name = some found) (h : P found) :
    ∃ after found', holders.foldl (fun tree holder => tree.changeObject change holder)
        (Value.object fields) = .object after ∧
      Object.field? after name = some found' ∧ P found' := by
  induction holders generalizing fields found with
  | nil => exact ⟨fields, found, rfl, hfound, h⟩
  | cons holder rest ih =>
    obtain ⟨hholder, hrest⟩ := not_or.1 (mt List.mem_cons.2 hroot)
    obtain ⟨step, place, rfl⟩ := List.exists_cons_of_ne_nil (Ne.symm hholder)
    obtain ⟨after, hafter, hfield⟩ := Value.field?_changeObject fields change step place name
    rw [List.foldl_cons, hafter]
    rcases hfield with hsame | hchanged
    · exact ih hrest (hsame.trans hfound) h
    · rw [hfound, Option.map_some] at hchanged
      exact ih hrest hchanged (hkind _ _ _ h)

/-- Writing below a field changes the object there, or puts a new one if there is none. -/
theorem Object.holder_cases (fields : Object) (key next : String) (rest : Path) :
    (∃ inner, fields.field? key = some (.object inner) ∧ ∃ place last below,
      fields.holder (key :: next :: rest) = (.field key :: place, last, below)) ∨
      fields.holder (key :: next :: rest) = ([], key, next :: rest) := by
  unfold holder
  split
  · next inner hinner => exact .inl ⟨inner, hinner, _, _, _, rfl⟩
  · exact .inr rfl

namespace Env

variable {env : Env} {name : String}

/-- The variables are not among the places of an object in them. -/
theorem IsRooted.not_mem_placesOf (h : env.IsRooted) {place : Place} (hne : place ≠ []) :
    [] ∉ env.placesOf place := by
  intro hmem
  rcases mem_placesOf hmem with heq | hshared
  · exact hne heq.symm
  · exact h hshared

section Shared

variable {path below : Path} {last : String}

/-- Assigning a variable, while objects are shared, assigns the variable. -/
theorem IsRooted.vars_assignShared (h : env.IsRooted)
    (hholder : env.vars.holder path = ([], last, below)) (value : Value) (origin : Option Place) :
    (env.assignShared path value origin).vars = env.vars.put last (value.nested below) := by
  unfold assignShared
  rw [hholder]
  dsimp only
  rw [placesOf_of_not_isShared h]
  rfl

/-- Assigning in an object below the variables keeps the kind of all of them. -/
theorem IsRooted.exists_field?_assignShared (h : env.IsRooted) {P : Value → Prop}
    (hkind : ∀ value change place, P value → P (value.changeObject change place))
    {step : PlaceStep} {place : Place}
    (hholder : env.vars.holder path = (step :: place, last, below)) {found : Value}
    (hfound : env.vars.field? name = some found) (hp : P found) (value : Value)
    (origin : Option Place) :
    ∃ found', (env.assignShared path value origin).vars.field? name = some found' ∧ P found' := by
  have hroot := h.not_mem_placesOf (List.cons_ne_nil step place)
  obtain ⟨after, found', hafter, hfound', hp'⟩ := Value.exists_field?_foldl hkind hroot
    (fun fields => Object.put fields last (value.nested below)) hfound hp
  unfold assignShared
  rw [hholder]
  dsimp only
  rw [hafter]
  exact ⟨found', hfound', hp'⟩

end Shared

/-- **A text in a variable stays there** when something is assigned in another variable. -/
theorem IsRooted.text_assign (h : env.IsRooted) {key : String} (hne : key ≠ name) {text : String}
    (htext : env.vars.field? name = some (.text text)) (rest : Path) (value : Value)
    (origin : Option Place) :
    (env.assign (key :: rest) value origin).vars.field? name = some (.text text) := by
  have hpath : key :: rest ≠ [] := List.cons_ne_nil _ _
  have hkind : ∀ (value : Value) change place, value = .text text →
      value.changeObject change place = .text text := by
    rintro _ change place rfl
    match place with
    | [] => rfl
    | .field _ :: _ => rfl
    | .item _ :: _ => rfl
  unfold Env.assign
  split
  · have hwritten := Object.isWritten_writeAt env.vars hpath value
    exact (hwritten.kept [name] (.of_head_ne hne)).trans htext
  · obtain ⟨front, last, below, heq, hholder⟩ := env.vars.holder_spec hpath
    cases front with
    | nil =>
      obtain ⟨rfl, rfl⟩ := List.cons.inj heq
      rw [h.vars_assignShared hholder, Object.field?_put_of_ne hne]
      exact htext
    | cons first front =>
      obtain ⟨_, hfound, rfl⟩ :=
        h.exists_field?_assignShared hkind hholder htext rfl value origin
      exact hfound

/-- Where something is assigned below a variable, the variable holds an object. -/
theorem IsRooted.object_assign (h : env.IsRooted) (next : String) (rest : Path) (value : Value)
    (origin : Option Place) :
    ∃ fields, (env.assign (name :: next :: rest) value origin).vars.field? name =
      some (.object fields) := by
  have hkind : ∀ (value : Value) change place, (∃ fields, value = .object fields) →
      ∃ fields, value.changeObject change place = .object fields := by
    rintro _ change place ⟨fields, rfl⟩
    exact Value.changeObject_object fields change place
  unfold Env.assign
  split
  · exact ⟨_, Object.field?_put_self _ _ _⟩
  · rcases env.vars.holder_cases name next rest with ⟨inner, hinner, _, _, _, hbelow⟩ | hnew
    · obtain ⟨_, hfound, fields, rfl⟩ :=
        h.exists_field?_assignShared hkind hbelow hinner ⟨inner, rfl⟩ value origin
      exact ⟨fields, hfound⟩
    · rw [h.vars_assignShared hnew]
      exact ⟨_, Object.field?_put_self _ _ _⟩

end Env

/-! ## Reading -/

namespace Env

variable {env : Env} {fields : Object} {path : String} {found found' : Value}

theorem exists_placeOf_eq (env : Env) (path : String) :
    ∃ name rest, env.placeOf path = .field name :: rest ∧
      (name = firstSegment path ∨ name = trim path) := by
  obtain ⟨later, hsegments, -⟩ := Path.ofText_spec path
  unfold placeOf
  split
  · rw [hsegments]
    exact ⟨_, _, rfl, .inl rfl⟩
  · exact ⟨_, _, rfl, .inr rfl⟩

/-- A value that is read at a path is found through the path's segments, or in the variable that the
whole path names; this is then another one than the first segment names. -/
theorem read?_cases (h : env.vars.read? path = .ok (some found)) :
    ((Value.object env.vars).walk (Path.ofText path) = .ok (some found) ∧
      env.placeOf path = (Value.object env.vars).placeOf (Path.ofText path)) ∨
    ((Value.object env.vars).walk (Path.ofText path) = .ok none ∧
      env.vars.field? (trim path) = some found ∧ env.placeOf path = [.field (trim path)] ∧
      firstSegment path ≠ trim path) := by
  rw [Object.read?] at h
  split at h
  · cases h
  · cases hwalk : (Value.object env.vars).walk (Path.ofText path) with
    | error fault =>
      rw [hwalk] at h
      cases h
    | ok found? =>
      rw [hwalk] at h
      cases found? with
      | some value =>
        cases h
        exact .inl ⟨rfl, by rw [placeOf, hwalk]⟩
      | none =>
        have hfield : env.vars.field? (trim path) = some found := Except.ok.inj h
        refine .inr ⟨rfl, hfield, by rw [placeOf, hwalk], fun heq => ?_⟩
        obtain ⟨-, -, hdots, -⟩ := Path.ofText_spec path
        rw [Path.ofText_of_no_dot (heq ▸ hdots), Value.walk, hfield] at hwalk
        simp [Value.walk] at hwalk

/-- What is read at a path is at the path's place. -/
theorem part?_placeOf (h : env.vars.read? path = .ok (some found)) :
    (Value.object env.vars).part? (env.placeOf path) = some found := by
  rcases read?_cases h with ⟨hwalk, hplace⟩ | ⟨-, hfield, hplace, -⟩
  · rw [hplace]
    exact Value.part?_placeOf hwalk
  · rw [hplace, Value.part?, hfield, Option.bind_some, Value.part?_nil]

/-- **A path is read at its place** in all variables that have a part there, if the variable that
its first segment names has not changed elsewhere. -/
theorem read?_of_part? (h : env.vars.read? path = .ok (some found))
    (hfirst : Place.Apart [.field (firstSegment path)] (env.placeOf path) →
      fields.field? (firstSegment path) = env.vars.field? (firstSegment path))
    (hpart : (Value.object fields).part? (env.placeOf path) = some found') :
    fields.read? path = .ok (some found') := by
  have hne : path.isEmpty = false := by
    rw [Bool.eq_false_iff]
    intro hempty
    rw [Object.read?, if_pos hempty] at h
    cases h
  rw [Object.read?, hne]
  rcases read?_cases h with ⟨hwalk, hplace⟩ | ⟨hwalk, -, hplace, hname⟩
  · rw [hplace] at hpart
    rw [(Value.walk_of_part? hwalk hpart).1]
    rfl
  · rw [hplace] at hpart hfirst
    obtain ⟨rest, hsegments, -⟩ := Path.ofText_spec path
    have hsame := Object.walk_congr (hfirst (.field_cons hname [])) rest
    rw [← hsegments] at hsame
    rw [hsame, hwalk]
    obtain ⟨value, hvalue, hnil⟩ := Option.bind_eq_some_iff.1 hpart
    rw [Value.part?_nil] at hnil
    show Except.ok (fields.field? (trim path)) = _
    rw [hvalue, hnil]

end Env

end ChatFlow

import ChatFlow.Proofs.Flow.Keywords
import ChatFlow.Value.Path

/-!
# What is written at a path, and what is read

Writing makes the objects that a path needs on its way, so it reaches the variables through objects
only. `Object.at?` follows a path in this way. What was written is found by it, and at a path that
neither leads on from the written one nor leads to it nothing has changed (`isWritten_writeAt`).
Reading follows paths into lists too, but what `at?` finds it finds as well (`read?_of_at?`).

Of the variables, reading a path looks at two: the one that its first segment names, and the one
that the whole path names (`read?_congr`).
-/

namespace ChatFlow

/-! ## Segments -/

/-- The first segment of a path: the variable that holds what the path leads to. -/
def firstSegment (path : String) : String :=
  (Path.ofText path).headD ""

/-- The pieces of a path have no dots in them, and a path without dots is its own first segment. -/
theorem Path.ofText_spec (path : String) :
    ∃ rest, Path.ofText path = firstSegment path :: rest ∧ '.' ∉ (firstSegment path).toList ∧
      ('.' ∉ (trim path).toList → trim path = firstSegment path) := by
  obtain ⟨first, later, hsplit, hnone, hfirst, -⟩ := splitFrom_spec '.' (trim path).toList
  have hpath : Path.ofText path = String.ofList first :: later.map String.ofList := by
    rw [Path.ofText, splitText, splitList, show (".".toList : List Char) = ['.'] from rfl, hsplit,
      List.map_cons]
  have hhead : firstSegment path = String.ofList first := by
    rw [firstSegment, hpath, List.headD_cons]
  refine ⟨later.map String.ofList, hhead ▸ hpath, ?_, fun hdots => ?_⟩
  · rw [hhead, String.toList_ofList]
    exact hnone first List.mem_cons_self
  · rw [hhead, ← (hfirst _ hdots).1 (List.prefix_refl _), String.ofList_toList]

/-- A path without dots is its only segment. -/
theorem Path.ofText_of_no_dot {path : String} (h : '.' ∉ (trim path).toList) :
    Path.ofText path = [trim path] := by
  have hsplit : ∀ text : List Char, '.' ∉ text → splitFrom ['.'] 0 text = [text] := by
    intro text htext
    induction text with
    | nil => rfl
    | cons c rest ih =>
      obtain ⟨hc, hrest⟩ := not_or.1 (mt List.mem_cons.2 htext)
      have hno : List.isPrefixOf ['.'] (c :: rest) = false := by simp [List.isPrefixOf, hc]
      rw [splitFrom, hno, ih hrest]
      rfl
  rw [Path.ofText, splitText, splitList, show (".".toList : List Char) = ['.'] from rfl,
    hsplit _ h, List.map_singleton, String.ofList_toList]

theorem Path.ofText_ne_nil (path : String) : Path.ofText path ≠ [] := by
  obtain ⟨rest, hpath, -⟩ := Path.ofText_spec path
  rw [hpath]
  exact List.cons_ne_nil _ _

/-- A whole path names no other variable without dots than the one that its first segment names. -/
theorem trim_ne {path name : String} (hdots : '.' ∉ name.toList) (h : firstSegment path ≠ name) :
    trim path ≠ name := by
  intro heq
  obtain ⟨-, -, -, hself⟩ := Path.ofText_spec path
  exact h ((hself (heq ▸ hdots)).symm.trans heq)

theorem trim_ne_firstSegment {path other : String} (h : firstSegment path ≠ firstSegment other) :
    trim path ≠ firstSegment other :=
  have ⟨_, _, hdots, _⟩ := Path.ofText_spec other
  trim_ne hdots h

/-- Whether neither of two paths leads on from the other. -/
def Path.Apart (path other : Path) : Prop :=
  ¬ path <+: other ∧ ¬ other <+: path

namespace Path.Apart

variable {path other : Path} {key : String}

theorem symm (h : path.Apart other) : other.Apart path := ⟨h.2, h.1⟩

/-- Paths that begin alike are apart if what follows is. -/
theorem cons_iff : Path.Apart (key :: path) (key :: other) ↔ path.Apart other := by
  simp only [Path.Apart, List.cons_prefix_cons, true_and]

theorem of_head_ne {name : String} (h : key ≠ name) : Path.Apart (key :: path) (name :: other) := by
  constructor
  · rw [List.cons_prefix_cons]
    exact fun hsame => h hsame.1
  · rw [List.cons_prefix_cons]
    exact fun hsame => h hsame.1.symm

/-- Paths that are apart are not empty. -/
theorem ne_nil (h : path.Apart other) : other ≠ [] := by
  rintro rfl
  exact h.2 List.nil_prefix

end Path.Apart

namespace Object

variable {fields : Object} {path other : Path} {key name : String} {value found : Value}

/-! ## Fields -/

/-- A field of another name than those of an object is none of it. -/
theorem field?_eq_none (h : name ∉ fields.map (·.1)) : fields.field? name = none := by
  induction fields with
  | nil => rfl
  | cons entry rest ih =>
    rw [List.map_cons, List.mem_cons, not_or] at h
    rw [field?, if_neg (Ne.symm h.1), ih h.2]

/-- A field that was updated has the new value, if there is one, and else the old one. -/
theorem field?_update {changes : Object} (hnodup : (changes.map (·.1)).Nodup) (fields : Object)
    (name : String) :
    (fields.update changes).field? name = (changes.field? name).or (fields.field? name) := by
  induction changes generalizing fields with
  | nil => rfl
  | cons change rest ih =>
    obtain ⟨key, value⟩ := change
    obtain ⟨hkey, hrest⟩ := List.nodup_cons.1 hnodup
    have hupdate : fields.update ((key, value) :: rest) = (fields.put key value).update rest := rfl
    rw [hupdate, ih hrest, field?]
    split
    · next hsame =>
      subst hsame
      rw [field?_eq_none hkey, field?_put_self]
      rfl
    · next hne => rw [field?_put_of_ne hne]

@[simp] theorem field?_remove_self (fields : Object) (name : String) :
    (fields.remove name).field? name = none := by
  refine field?_eq_none fun hmem => ?_
  obtain ⟨entry, hentry, hname⟩ := List.mem_map.1 hmem
  simpa [hname] using (List.mem_filter.1 hentry).2

theorem field?_remove_of_ne (h : key ≠ name) (fields : Object) :
    (fields.remove key).field? name = fields.field? name := by
  induction fields with
  | nil => rfl
  | cons entry rest ih =>
    obtain ⟨first, value⟩ := entry
    rw [remove, List.filter_cons]
    by_cases hfirst : first = key
    · subst hfirst
      rw [if_neg (by simp), field?, if_neg h]
      exact ih
    · rw [if_pos (by simpa using hfirst), field?, field?]
      split
      · rfl
      · exact ih

/-! ## Paths through objects -/

/-- Follows a path through objects. -/
def at? (fields : Object) : Path → Option Value
  | [] => none
  | [key] => fields.field? key
  | key :: next :: rest =>
    ((fields.field? key).bind Value.object?).bind fun inner => at? inner (next :: rest)

@[simp] theorem at?_singleton (fields : Object) (key : String) :
    fields.at? [key] = fields.field? key := rfl

theorem at?_cons (fields : Object) (key : String) (h : path ≠ []) :
    fields.at? (key :: path) = ((fields.field? key).bind Value.object?).bind (at? · path) := by
  cases path with
  | nil => exact absurd rfl h
  | cons next rest => rfl

/-- Of an object's fields, a path looks at the one that its first segment names. -/
theorem at?_congr {fields' : Object} (h : fields.field? key = fields'.field? key) (path : Path) :
    fields.at? (key :: path) = fields'.at? (key :: path) := by
  cases path with
  | nil => exact h
  | cons next rest =>
    rw [at?_cons _ _ (List.cons_ne_nil _ _), at?_cons _ _ (List.cons_ne_nil _ _), h]

/-- The object at a field, or an empty one if there is none, has the same at a path as what is
there. -/
theorem at?_getD_object (value? : Option Value) (path : Path) :
    ((value?.bind Value.object?).getD []).at? path =
      (value?.bind Value.object?).bind (at? · path) := by
  cases value?.bind Value.object? with
  | some inner => rfl
  | none =>
    cases path with
    | nil => rfl
    | cons key rest => cases rest <;> rfl

/-- What a path leads to through objects is found by it. -/
theorem walk_of_at? (h : fields.at? path = some found) :
    (Value.object fields).walk path = .ok (some found) := by
  induction path generalizing fields with
  | nil => cases h
  | cons key rest ih =>
    cases rest with
    | nil =>
      rw [at?_singleton] at h
      simp [Value.walk, h]
    | cons next rest =>
      obtain ⟨inner, hinner, hfound⟩ := Option.bind_eq_some_iff.1 h
      obtain ⟨value, hvalue, hobject⟩ := Option.bind_eq_some_iff.1 hinner
      cases value with
      | object fields' =>
        cases hobject
        rw [Value.walk, hvalue]
        exact ih hfound
      | _ => cases hobject

/-- What a path leads to through objects is read at it. -/
theorem read?_of_at? {text : String} (hne : text ≠ "")
    (h : fields.at? (Path.ofText text) = some found) : fields.read? text = .ok (some found) := by
  rw [read?, if_neg (by simpa using hne), walk_of_at? h]
  rfl

/-- Following a path into an object, like reading it, looks at the first segment's field. -/
theorem walk_congr {fields' : Object} (h : fields.field? key = fields'.field? key) (path : Path) :
    (Value.object fields).walk (key :: path) = (Value.object fields').walk (key :: path) := by
  rw [Value.walk, Value.walk, h]

/-- **Reading looks at two variables**: the one that the first segment names, and the one that the
whole path names. -/
theorem read?_congr {fields' : Object} {text : String}
    (hfirst : fields.field? (firstSegment text) = fields'.field? (firstSegment text))
    (hwhole : fields.field? (trim text) = fields'.field? (trim text)) :
    fields.read? text = fields'.read? text := by
  obtain ⟨rest, hpath, -⟩ := Path.ofText_spec text
  rw [read?, read?, hpath, walk_congr hfirst, hwhole]

/-! ## Writing -/

/-- Whether an object is another one with a value written at a path: the value is found there, and
nothing has changed at paths that are apart. -/
structure IsWritten (before after : Object) (path : Path) (value : Value) : Prop where
  found : after.at? path = some value
  kept : ∀ other, path.Apart other → after.at? other = before.at? other

namespace IsWritten

variable {before after : Object} {value : Value}

/-- A value is written at a field by a change of this field alone. -/
theorem of_field (hself : after.field? key = some value)
    (hother : ∀ name, key ≠ name → after.field? name = before.field? name) :
    IsWritten before after [key] value where
  found := hself
  kept := by
    intro other hapart
    obtain ⟨name, rest, rfl⟩ := List.exists_cons_of_ne_nil hapart.ne_nil
    have hname : key ≠ name := by
      rintro rfl
      exact hapart.1 (List.cons_prefix_cons.2 ⟨rfl, List.nil_prefix⟩)
    exact at?_congr (hother name hname) rest

/-- A value is written below a field by a change of this field alone, if it is written in the object
there. If there is none it is written in an empty one. -/
theorem below (inner : Object) {rest : Path}
    (hself : after.field? key = some (.object inner))
    (hother : ∀ name, key ≠ name → after.field? name = before.field? name)
    (h : IsWritten (((before.field? key).bind Value.object?).getD []) inner rest value) :
    IsWritten before after (key :: rest) value := by
  have hafter : ∀ {path : Path}, path ≠ [] → after.at? (key :: path) = inner.at? path := by
    intro path hne
    rw [at?_cons _ _ hne, hself]
    rfl
  have hrest : rest ≠ [] := by
    rintro rfl
    cases h.found
  refine ⟨(hafter hrest).trans h.found, fun other hapart => ?_⟩
  obtain ⟨name, later, rfl⟩ := List.exists_cons_of_ne_nil hapart.ne_nil
  by_cases hname : key = name
  · subst hname
    have hlater := Path.Apart.cons_iff.1 hapart
    rw [hafter hlater.ne_nil, at?_cons _ _ hlater.ne_nil, h.kept later hlater, at?_getD_object]
  · exact at?_congr (hother name hname) later

end IsWritten

/-- **Writing at a path** writes there. -/
theorem isWritten_writeAt (fields : Object) (h : path ≠ []) (value : Value) :
    IsWritten fields (fields.writeAt path value) path value := by
  induction path generalizing fields with
  | nil => exact absurd rfl h
  | cons key rest ih =>
    cases rest with
    | nil =>
      exact .of_field (field?_put_self _ _ _) fun name hname => field?_put_of_ne hname fields value
    | cons next rest =>
      rw [writeAt]
      exact .below _ (field?_put_self _ _ _) (fun name hname => field?_put_of_ne hname fields _)
        (ih _ (List.cons_ne_nil _ _))

end Object

end ChatFlow

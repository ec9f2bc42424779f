import ChatFlow.Env
import ChatFlow.Proofs.Value.Paths

/-!
# Writing while objects are shared

One object can be found at several places of an environment, and then writing into it changes all of
them. A path is the environment's own (`Env.Owns`) if the objects on the way to it are found nowhere
else. Writing at such a path is as writing at any path of a tree: what was written is found there,
and nothing has changed at paths that are apart (`Owns.isWritten_assign`). And it does not make
other paths less than own, since what it shares lies under the path itself (`Owns.assign`).

The variables themselves are never shared (`Env.IsRooted`), so every single variable is own.
-/

namespace ChatFlow

/-- The place to which a path leads through objects. -/
def Path.place (path : Path) : Place := path.map .field

@[simp] theorem Path.place_cons (key : String) (path : Path) :
    Path.place (key :: path) = .field key :: Path.place path := rfl

@[simp] theorem Path.place_append (path other : Path) :
    Path.place (path ++ other) = Path.place path ++ Path.place other := List.map_append

theorem Path.place_prefix_iff {path other : Path} :
    Path.place path <+: Path.place other ↔ path <+: other := by
  induction path generalizing other with
  | nil => simp [place]
  | cons key path ih =>
    cases other with
    | nil => simp [place]
    | cons name other =>
      rw [place_cons, place_cons, List.cons_prefix_cons, List.cons_prefix_cons, ih,
        PlaceStep.field.injEq]

/-! ## Changing an object at its place -/

namespace Object

variable {fields : Object} {path other : Path}

/-- Where writing at a path begins to change something: at a field of an object on the way. -/
theorem holder_spec (fields : Object) (h : path ≠ []) :
    ∃ (front : Path) (key : String) (below : Path), path = front ++ key :: below ∧
      fields.holder path = (Path.place front, key, below) := by
  induction path generalizing fields with
  | nil => exact absurd rfl h
  | cons key rest ih =>
    cases rest with
    | nil => exact ⟨[], key, [], rfl, rfl⟩
    | cons next rest =>
      unfold holder
      split
      · next inner _ =>
        obtain ⟨front, last, below, hpath, hholder⟩ := ih inner (List.cons_ne_nil _ _)
        rw [hholder]
        exact ⟨key :: front, last, below, by rw [hpath, List.cons_append], rfl⟩
      · exact ⟨[], key, next :: rest, rfl, rfl⟩

/-- A change of the fields of one name. -/
theorem field?_map_of_name (fields : Object) (key name : String) (change : Value → Value) :
    field? (fields.map fun (first, value) => (first, if first = key then change value else value))
      name = if name = key then (fields.field? name).map change else fields.field? name := by
  induction fields with
  | nil => simp [field?]
  | cons entry rest ih =>
    obtain ⟨first, value⟩ := entry
    simp only [List.map_cons, field?]
    by_cases hfirst : first = name
    · subst hfirst
      by_cases hkey : first = key <;> simp [hkey]
    · rw [if_neg hfirst, ih, if_neg hfirst]

end Object

/-- Among the objects that are made on the way to a value, it is written and nothing else. -/
theorem Value.isWritten_nested (next : String) (rest : Path) (value : Value) :
    ∃ fields, value.nested (next :: rest) = .object fields ∧
      Object.IsWritten [] fields (next :: rest) value := by
  induction rest generalizing next with
  | nil =>
    exact ⟨_, rfl, .of_field (Object.field?_put_self [] next value) fun name hname =>
      Object.field?_put_of_ne hname [] value⟩
  | cons following rest ih =>
    obtain ⟨inner, hnested, hwritten⟩ := ih following
    refine ⟨_, rfl, .below inner ?_ (fun name hname => ?_) hwritten⟩
    · rw [hnested]
      exact Object.field?_put_self [] next (.object inner)
    · exact Object.field?_put_of_ne hname [] _

/-- **Changing the object that a path writes to** writes at the path. -/
theorem Object.changeObject_holder {path : Path} {place : Place} {key : String} {below : Path}
    {fields : Object} (h : path ≠ []) (hholder : fields.holder path = (place, key, below))
    (value : Value) :
    ∃ after, (Value.object fields).changeObject (fun inner => Object.put inner key
        (value.nested below)) place = .object after ∧ IsWritten fields after path value := by
  induction path generalizing fields place with
  | nil => exact absurd rfl h
  | cons first rest ih =>
    cases rest with
    | nil =>
      cases hholder
      exact ⟨_, rfl, .of_field (field?_put_self _ _ _) fun name hname =>
        field?_put_of_ne hname fields value⟩
    | cons next rest =>
      unfold holder at hholder
      split at hholder
      · next inner hinner =>
        obtain ⟨front, last, below', hlater⟩ : ∃ front last below',
            Object.holder inner (next :: rest) = (front, last, below') := ⟨_, _, _, rfl⟩
        rw [hlater] at hholder
        obtain ⟨rfl, rfl, rfl⟩ : _ ∧ last = key ∧ below' = below := by simpa using hholder
        obtain ⟨after, hafter, hwritten⟩ := ih (List.cons_ne_nil _ _) hlater
        refine ⟨_, rfl, .below after ?_ (fun name hname => ?_) ?_⟩
        · rw [field?_map_of_name, if_pos rfl, hinner, Option.map_some, hafter]
        · rw [field?_map_of_name, if_neg (Ne.symm hname)]
        · rw [hinner]
          exact hwritten
      · next hnot =>
        obtain ⟨rfl, rfl, rfl⟩ : _ ∧ first = key ∧ next :: rest = below := by simpa using hholder
        obtain ⟨made, hnested, hwritten⟩ := Value.isWritten_nested next rest value
        have hno : (fields.field? first).bind Value.object? = none := by
          cases hvalue : fields.field? first with
          | none => rfl
          | some old =>
            cases old with
            | object inner => exact absurd hvalue (hnot inner)
            | _ => rfl
        refine ⟨_, rfl, .below made ?_ (fun name hname => ?_) ?_⟩
        · rw [hnested, field?_put_self]
        · exact field?_put_of_ne hname fields _
        · rw [hno]
          exact hwritten

/-- The objects in a value under new objects are these new ones, and those of the value. -/
theorem Value.mem_objectPlaces_nested {below : Path} {value : Value} {part : Place}
    (h : part ∈ (value.nested below).objectPlaces) :
    part.length < below.length ∨ Path.place below <+: part := by
  induction below generalizing part with
  | nil => exact .inr List.nil_prefix
  | cons key rest ih =>
    rw [nested, objectPlaces, fieldPlaces, fieldPlaces, List.append_nil, List.mem_cons,
      List.mem_map] at h
    rcases h with rfl | ⟨inner, hinner, rfl⟩
    · exact .inl (Nat.succ_pos _)
    · rcases ih hinner with hlt | hpre
      · exact .inl (Nat.succ_lt_succ hlt)
      · exact .inr (List.cons_prefix_cons.2 ⟨rfl, hpre⟩)

/-! ## Groups -/

/-- What is left in groups was in them, and does not lie under what is gone. -/
theorem mem_dropUnder {gone : List Place} {groups : List (List Place)} {place : Place}
    (h : ∃ group ∈ dropUnder gone groups, place ∈ group) :
    (∃ group ∈ groups, place ∈ group) ∧ ∀ root ∈ gone, ¬ root <+: place := by
  obtain ⟨group, hgroup, hplace⟩ := h
  obtain ⟨old, hold, rfl⟩ := List.mem_map.1 (List.mem_filter.1 hgroup).1
  obtain ⟨hin, hkept⟩ := List.mem_filter.1 hplace
  exact ⟨⟨old, hold, hin⟩, by simpa using hkept⟩

/-- What is in groups after another was added was in them or is of the new one, which has at least
two places then. -/
theorem mem_joinGroup {groups : List (List Place)} {new : List Place} {place : Place}
    (h : ∃ group ∈ joinGroup groups new, place ∈ group) :
    (∃ group ∈ groups, place ∈ group) ∨ 2 ≤ new.length ∧ place ∈ new := by
  obtain ⟨group, hgroup, hplace⟩ := h
  unfold joinGroup at hgroup
  split at hgroup
  · exact .inl ⟨group, hgroup, hplace⟩
  · next hlength =>
    rcases List.mem_cons.1 hgroup with rfl | hold
    · rcases List.mem_append.1 (List.mem_eraseDups.1 hplace) with hmet | hnew
      · obtain ⟨old, hold, hin⟩ := List.mem_flatten.1 hmet
        exact .inl ⟨old, (List.mem_filter.1 hold).1, hin⟩
      · exact .inr ⟨Nat.le_of_not_lt hlength, hnew⟩
    · exact .inl ⟨group, (List.mem_filter.1 hold).1, hplace⟩

theorem mem_foldl_joinGroup {groups news : List (List Place)} {place : Place}
    (h : ∃ group ∈ news.foldl joinGroup groups, place ∈ group) :
    (∃ group ∈ groups, place ∈ group) ∨ ∃ new ∈ news, 2 ≤ new.length ∧ place ∈ new := by
  induction news generalizing groups with
  | nil => exact .inl h
  | cons new rest ih =>
    rcases ih h with hjoined | ⟨other, hother, hin⟩
    · rcases mem_joinGroup hjoined with hold | hnew
      · exact .inl hold
      · exact .inr ⟨new, List.mem_cons_self, hnew⟩
    · exact .inr ⟨other, List.mem_cons_of_mem _ hother, hin⟩

namespace Env

variable {env : Env} {path other : Path} {place : Place} {value : Value} {origin : Option Place}

/-- Whether the object at a place is found at another place too. -/
def IsShared (env : Env) (place : Place) : Prop :=
  ∃ group ∈ env.shared, place ∈ group

/-- Whether the variables are no part of themselves. -/
def IsRooted (env : Env) : Prop :=
  ¬ env.IsShared []

/-- Whether the objects on the way to a path are found nowhere else. -/
def Owns (env : Env) (path : Path) : Prop :=
  ∀ front rest, rest ≠ [] → front ++ rest = path → ¬ env.IsShared (Path.place front)

theorem not_isShared_of_nil (h : env.shared = []) (place : Place) : ¬ env.IsShared place := by
  rintro ⟨group, hgroup, -⟩
  rw [h] at hgroup
  cases hgroup

/-- Of variables as they were stored, every path is own. -/
theorem owns_ofVariables (vars : Object) (path : Path) : (ofVariables vars).Owns path :=
  fun front _ _ _ => not_isShared_of_nil rfl (Path.place front)

/-- A variable is the environment's own. -/
theorem IsRooted.owns (h : env.IsRooted) (name : String) : env.Owns [name] := by
  intro front rest hrest heq
  cases front with
  | nil => exact h
  | cons key front =>
    obtain ⟨-, hnil⟩ := List.cons.inj heq
    exact absurd (List.append_eq_nil_iff.1 hnil).2 hrest

theorem Owns.isRooted (h : env.Owns path) (hne : path ≠ []) : env.IsRooted :=
  h [] path hne rfl

theorem placesOf_of_not_isShared (h : ¬ env.IsShared place) : env.placesOf place = [place] := by
  have hnone : env.shared.find? (·.contains place) = none := by
    refine List.find?_eq_none.2 fun group hgroup hplace => h ⟨group, hgroup, ?_⟩
    simpa using hplace
  rw [placesOf, hnone, Option.getD_none]

theorem mem_placesOf {here : Place} (h : here ∈ env.placesOf place) :
    here = place ∨ env.IsShared here := by
  unfold placesOf at h
  cases hfound : env.shared.find? (·.contains place) with
  | none =>
    rw [hfound, Option.getD_none, List.mem_singleton] at h
    exact .inl h
  | some group =>
    rw [hfound, Option.getD_some] at h
    exact .inr ⟨group, List.mem_of_find?_eq_some hfound, h⟩

/-! ## Assigning -/

/-- **What assigning shares**: what was shared before, places under a place where the value now is,
and places under the one that it came from. If the value is at one new place only, then the objects
made on the way to it are not shared. -/
theorem IsShared.of_assign {front : Place} {key : String} {below : Path}
    (h : (env.assign path value origin).IsShared place)
    (hholder : env.vars.holder path = (front, key, below)) :
    env.IsShared place ∨
      (∃ holder ∈ env.placesOf front, ∃ part, place = holder ++ .field key :: part ∧
        (env.placesOf front = [front] → Path.place below <+: part)) ∨
      ∃ source, origin = some source ∧ source <+: place := by
  unfold assign at h
  split at h
  · obtain ⟨group, hgroup, -⟩ := h
    cases hgroup
  · unfold assignShared at h
    rw [hholder] at h
    rcases mem_foldl_joinGroup h with hold | ⟨new, hnew, hlength, hplace⟩
    · exact .inl (mem_dropUnder hold).1
    obtain ⟨part, hpart, rfl⟩ := List.mem_map.1 hnew
    rcases List.mem_append.1 hplace with hthere | horigin
    · obtain ⟨target, htarget, hunder⟩ := List.mem_map.1 hthere
      obtain ⟨holder, hmem, heq⟩ := List.mem_map.1 htarget
      subst hunder heq
      refine .inr (.inl ⟨holder, hmem, part, by rw [List.append_assoc]; rfl, fun hone => ?_⟩)
      rcases Value.mem_objectPlaces_nested hpart with hshort | hprefix
      · -- a new object is at the one new place only, so there is no group of it
        rw [hone] at hlength
        cases origin with
        | none => simp at hlength
        | some source => simp [Nat.not_le.2 hshort] at hlength
      · exact hprefix
    · cases origin with
      | none => cases horigin
      | some source =>
        dsimp only at horigin
        split at horigin
        · rcases mem_placesOf (List.mem_filter.1 horigin).1 with rfl | hshared
          · exact .inr (.inr ⟨source, rfl, List.prefix_append _ _⟩)
          · exact .inl hshared
        · cases horigin

/-- What assigning a new value at one place shares was shared before, and is not under this
place. -/
theorem IsShared.of_assign_new {front : Place} {key : String} {below : Path}
    (h : (env.assign path value none).IsShared place)
    (hholder : env.vars.holder path = (front, key, below))
    (hplaces : env.placesOf front = [front]) :
    env.IsShared place ∧ ¬ front ++ [.field key] <+: place := by
  unfold assign at h
  split at h
  · obtain ⟨group, hgroup, -⟩ := h
    cases hgroup
  · unfold assignShared at h
    rw [hholder] at h
    simp only [hplaces] at h
    rcases mem_foldl_joinGroup h with hold | ⟨new, hnew, hlength, -⟩
    · obtain ⟨hshared, hkept⟩ := mem_dropUnder hold
      exact ⟨hshared, hkept _ (List.mem_singleton_self _)⟩
    · obtain ⟨part, -, rfl⟩ := List.mem_map.1 hnew
      exact absurd hlength (by simp)

/-- The variables stay no part of themselves. -/
theorem IsRooted.assign (h : env.IsRooted) (hne : path ≠ []) (horigin : origin ≠ some []) :
    (env.assign path value origin).IsRooted := by
  intro hshared
  obtain ⟨front, key, below, -, hholder⟩ := env.vars.holder_spec hne
  rcases hshared.of_assign hholder with hold | ⟨holder, -, part, hplace, -⟩ | ⟨source, rfl, hsource⟩
  · exact h hold
  · simp at hplace
  · exact horigin (congrArg some (List.prefix_nil.1 hsource))

/-- Assigning at an own path shares only places under the path, and under the place that the value
comes from. -/
theorem Owns.of_isShared_assign (h : env.Owns path) (hne : path ≠ [])
    (hshared : (env.assign path value origin).IsShared place) :
    env.IsShared place ∨ Path.place path <+: place ∨
      ∃ source, origin = some source ∧ source <+: place := by
  obtain ⟨front, key, below, rfl, hholder⟩ := env.vars.holder_spec hne
  have hown : ¬ env.IsShared (Path.place front) := h front (key :: below) (List.cons_ne_nil _ _) rfl
  have hplaces := placesOf_of_not_isShared hown
  rcases hshared.of_assign hholder with hold | ⟨holder, hmem, part, rfl, hpart⟩ | hsource
  · exact .inl hold
  · rw [hplaces, List.mem_singleton] at hmem
    obtain ⟨rest, rfl⟩ := hpart hplaces
    refine .inr (.inl ⟨rest, ?_⟩)
    rw [hmem, Path.place_append, Path.place_cons, List.append_assoc, List.cons_append]
  · exact .inr (.inr hsource)

/-- Assigning a new value at an own path shares nothing. -/
theorem Owns.isShared_of_assign_new (h : env.Owns path) (hne : path ≠ [])
    (hshared : (env.assign path value none).IsShared place) : env.IsShared place := by
  obtain ⟨front, key, below, rfl, hholder⟩ := env.vars.holder_spec hne
  have hown : ¬ env.IsShared (Path.place front) := h front (key :: below) (List.cons_ne_nil _ _) rfl
  exact (hshared.of_assign_new hholder (placesOf_of_not_isShared hown)).1

/-- **An own path stays own** if it does not lead on from the assigned one, and no object on the way
to it is where the value comes from. -/
theorem Owns.assign (h : env.Owns other) (hpath : env.Owns path) (hne : path ≠ [])
    (hunder : ∀ rest, path ++ rest = other → rest = [])
    (horigin : ∀ source, origin = some source → ¬ source <+: Path.place other) :
    (env.assign path value origin).Owns other := by
  intro front rest hrest heq hshared
  have hfront : Path.place front <+: Path.place other := Path.place_prefix_iff.2 ⟨rest, heq⟩
  rcases hpath.of_isShared_assign hne hshared with hold | hplace | ⟨source, hsource, hfrom⟩
  · exact h front rest hrest heq hold
  · obtain ⟨between, rfl⟩ := Path.place_prefix_iff.1 hplace
    rw [List.append_assoc] at heq
    exact hrest (List.append_eq_nil_iff.1 (hunder _ heq)).2
  · exact horigin source hsource (hfrom.trans hfront)

/-- **Assigning at an own path** writes at the path. -/
theorem Owns.isWritten_assign (h : env.Owns path) (hne : path ≠ []) (value : Value)
    (origin : Option Place) :
    Object.IsWritten env.vars (env.assign path value origin).vars path value := by
  unfold Env.assign
  split
  · exact Object.isWritten_writeAt env.vars hne value
  · obtain ⟨front, key, below, rfl, hholder⟩ := env.vars.holder_spec hne
    obtain ⟨after, hafter, hwritten⟩ := Object.changeObject_holder hne hholder value
    have hown := h front (key :: below) (List.cons_ne_nil _ _) rfl
    unfold assignShared
    rw [hholder]
    simp only [placesOf_of_not_isShared hown, List.foldl_cons, List.foldl_nil, hafter]
    exact hwritten

/-- Assigning at an own path changes no variable but the one that holds it. -/
theorem Owns.field?_assign_of_ne {key name : String} {rest : Path} (h : env.Owns (key :: rest))
    (hne : key ≠ name) (value : Value) (origin : Option Place) :
    (env.assign (key :: rest) value origin).vars.field? name = env.vars.field? name := by
  have hapart : Path.Apart (key :: rest) [name] := .of_head_ne hne
  exact (h.isWritten_assign (List.cons_ne_nil _ _) value origin).kept _ hapart

/-! ## Variables -/

/-- A path stays own when a variable is taken out. -/
theorem Owns.remove (h : env.Owns path) (name : String) : (env.remove name).Owns path :=
  fun front rest hrest heq hshared => h front rest hrest heq (mem_dropUnder hshared).1

namespace IsRooted

theorem put (h : env.IsRooted) (name : String) (value : Value) : (env.put name value).IsRooted :=
  h.assign (List.cons_ne_nil _ _) (by simp)

/-- In a variable that was assigned, nothing is shared. -/
theorem isShared_put (h : env.IsRooted) {name : String}
    (hshared : (env.put name value).IsShared place) :
    env.IsShared place ∧ ¬ [.field name] <+: place :=
  hshared.of_assign_new rfl (placesOf_of_not_isShared h)

/-- All paths in a variable are own if nothing in it is shared. -/
theorem owns_of_not_isShared (h : env.IsRooted) {name : String}
    (hno : ∀ place, env.IsShared place → ¬ [.field name] <+: place) (later : Path) :
    env.Owns (name :: later) := by
  intro front rest hrest heq hshared
  cases front with
  | nil => exact h hshared
  | cons key front =>
    obtain ⟨rfl, -⟩ := List.cons.inj heq
    exact hno _ hshared (List.cons_prefix_cons.2 ⟨rfl, List.nil_prefix⟩)

theorem remove (h : env.IsRooted) (name : String) : (env.remove name).IsRooted :=
  fun hshared => h (mem_dropUnder hshared).1

/-- A path stays own when another variable is assigned. -/
theorem owns_put (h : env.IsRooted) {key : String} {rest : Path} (hown : env.Owns (key :: rest))
    {name : String} (hne : name ≠ key) (value : Value) :
    (env.put name value).Owns (key :: rest) := by
  refine hown.assign (h.owns name) (List.cons_ne_nil _ _) (fun after heq => ?_) (by simp)
  exact absurd (List.cons.inj heq).1 hne

theorem field?_put_self (h : env.IsRooted) (name : String) (value : Value) :
    (env.put name value).vars.field? name = some value :=
  ((h.owns name).isWritten_assign (List.cons_ne_nil _ _) value none).found

theorem field?_put_of_ne (h : env.IsRooted) {key name : String} (hne : key ≠ name)
    (value : Value) : (env.put key value).vars.field? name = env.vars.field? name :=
  (h.owns key).field?_assign_of_ne hne value none

end IsRooted

end Env

end ChatFlow

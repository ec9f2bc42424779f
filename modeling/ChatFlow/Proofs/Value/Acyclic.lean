import ChatFlow.Proofs.Value.Places
import ChatFlow.Proofs.Value.Sharing

/-!
# Environments in which no object is a part of itself

Variables can be written as JSON, so no object among them is a part of itself. In an environment with
shared objects this says that of the places of one object none is on the way to another
(`Env.IsAcyclic`).

Writing then changes one field in the same way at each place of an object, and these changes do not
come in each other's way. So what was assigned at a path is found there, whatever is shared on the
way to it (`IsAcyclic.at?_assign`). And assigning a new value makes no object a part of itself
(`IsAcyclic.assign`): it is shared only with itself, at the same place below each place of the
object that was changed (`Beneath`).
-/

namespace ChatFlow

/-- Whether none of some places is on the way to another. -/
def Place.Antichain (places : List Place) : Prop :=
  ∀ place ∈ places, ∀ other ∈ places, place = other ∨ place.Apart other

namespace Place.Antichain

variable {places others : List Place}

theorem mono (h : Antichain places) (hsub : others ⊆ places) : Antichain others :=
  fun place hplace other hother => h place (hsub hplace) other (hsub hother)

theorem singleton (place : Place) : Antichain [place] := by
  intro first hfirst second hsecond
  rw [List.mem_singleton.1 hfirst, List.mem_singleton.1 hsecond]
  exact .inl rfl

theorem pair {place other : Place} (h : place.Apart other) : Antichain [place, other] := by
  intro first hfirst second hsecond
  rcases List.mem_pair.1 hfirst with rfl | rfl <;> rcases List.mem_pair.1 hsecond with rfl | rfl
  · exact .inl rfl
  · exact .inr h
  · exact .inr h.symm
  · exact .inl rfl

/-- The places at the same part below each of some places. -/
theorem append (h : Antichain places) (part : Place)
    (hothers : ∀ other ∈ others, ∃ place ∈ places, other = place ++ part) : Antichain others := by
  intro first hfirst second hsecond
  obtain ⟨place, hplace, rfl⟩ := hothers first hfirst
  obtain ⟨place', hplace', rfl⟩ := hothers second hsecond
  rcases h place hplace place' hplace' with rfl | hapart
  · exact .inl rfl
  · exact .inr ((hapart.append_left part).append_right part)

end Place.Antichain

/-! ## Changing an object at all its places -/

namespace Value

variable {value : Value} {fields : Object} {front : Place} {holders : List Place}

/-- What has a field is an object. -/
theorem exists_object_of_part?_field {name : String} {rest : Place} {found : Value}
    (h : value.part? (.field name :: rest) = some found) : ∃ fields, value = .object fields := by
  cases value with
  | object fields => exact ⟨fields, rfl⟩
  | _ => cases h

/-- **Assigning a field of an object at all its places** assigns it at each of them, if no place is
on the way to another. -/
theorem part?_foldl_put (hpart : value.part? front = some (.object fields))
    (hholders : ∀ holder ∈ holders, holder = front ∨ holder.Apart front) (key : String)
    (content : Value) :
    (holders.foldl (fun tree holder => tree.changeObject (Object.put · key content) holder)
      value).part? front =
        some (.object (if front ∈ holders then fields.put key content else fields)) := by
  induction holders generalizing value fields with
  | nil => exact hpart
  | cons holder rest ih =>
    obtain ⟨hholder, hrest⟩ := List.forall_mem_cons.1 hholders
    rw [List.foldl_cons]
    rcases hholder with rfl | hapart
    · have hchanged : (value.changeObject (Object.put · key content) holder).part? holder =
          some (.object (fields.put key content)) := by
        have happend := part?_changeObject_append value (Object.put · key content) holder []
        rwa [List.append_nil, hpart] at happend
      rw [ih hchanged hrest, if_pos List.mem_cons_self, Object.put_put, ite_self]
    · have hne : front ≠ holder := fun heq => hapart.1 (heq ▸ List.prefix_refl _)
      rw [ih ((part?_changeObject_of_apart value _ hapart).trans hpart) hrest]
      simp only [List.mem_cons, hne, false_or]

end Value

/-- **Changing the object that a path writes to at all its places** leaves the value at the path. -/
theorem Object.exists_at?_foldl_put {vars : Object} {front below : Path} {key : String}
    {holders : List Place}
    (hholder : vars.holder (front ++ key :: below) = (Path.place front, key, below))
    (hholders : ∀ holder ∈ holders, holder = Path.place front ∨ holder.Apart (Path.place front))
    (hself : Path.place front ∈ holders) (value : Value) :
    ∃ after : Object, holders.foldl (fun tree holder =>
        tree.changeObject (Object.put · key (value.nested below)) holder) (Value.object vars) =
          .object after ∧ Object.at? after (front ++ key :: below) = some value := by
  have hne : front ++ key :: below ≠ [] := by simp
  obtain ⟨fields, hfields⟩ := vars.part?_holder hne
  rw [hholder] at hfields
  have hchanged := Value.part?_foldl_put hfields hholders key (value.nested below)
  rw [if_pos hself] at hchanged
  generalize holders.foldl _ _ = tree at hchanged
  have hfound : tree.part? (Path.place (front ++ key :: below)) = some value := by
    rw [Path.place_append, Value.part?_append, hchanged, Option.bind_some, Path.place_cons,
      Value.part?, Object.field?_put_self, Option.bind_some, Value.part?_nested]
  obtain ⟨after, rfl⟩ : ∃ after, tree = .object after := by
    obtain ⟨name, rest, hname⟩ := List.exists_cons_of_ne_nil hne
    rw [hname, Path.place_cons] at hfound
    exact Value.exists_object_of_part?_field hfound
  exact ⟨after, rfl, (Object.at?_eq_part? after hne).trans hfound⟩

/-! ## Groups -/

/-- What is left of a group was in it, and does not lie under what is gone. -/
theorem exists_of_mem_dropUnder {gone : List Place} {groups : List (List Place)}
    {group : List Place} (h : group ∈ dropUnder gone groups) :
    (∃ old ∈ groups, group ⊆ old) ∧ ∀ place ∈ group, ∀ root ∈ gone, ¬ root <+: place := by
  obtain ⟨old, hold, rfl⟩ := List.mem_map.1 (List.mem_filter.1 h).1
  refine ⟨⟨old, hold, fun place hplace => (List.mem_filter.1 hplace).1⟩, fun place hplace => ?_⟩
  simpa using (List.mem_filter.1 hplace).2

/-- Whether a group has the places of one part below each of some roots. -/
def Beneath (roots group : List Place) : Prop :=
  ∃ part, ∀ place ∈ group, ∃ root ∈ roots, place = root ++ part

/-- Whether a group is one that was there before something was assigned at the roots, or one that
came with it. -/
def OldOrNew (roots group : List Place) : Prop :=
  (Place.Antichain group ∧ ∀ place ∈ group, ∀ root ∈ roots, ¬ root <+: place) ∨
    Beneath roots group

namespace OldOrNew

variable {roots group : List Place}

theorem antichain (hroots : Place.Antichain roots) (h : OldOrNew roots group) :
    Place.Antichain group := by
  rcases h with ⟨hold, -⟩ | ⟨part, hnew⟩
  · exact hold
  · exact hroots.append part hnew

/-- What is added to the groups meets only groups of the same part, so it makes one of these
larger. -/
theorem joinGroup (hroots : Place.Antichain roots) {groups : List (List Place)}
    (hgroups : ∀ group ∈ groups, OldOrNew roots group) (part : Place) :
    ∀ group ∈ joinGroup groups (roots.map (· ++ part)), OldOrNew roots group := by
  have hmeets : ∀ other ∈ groups,
      other.any (roots.map (· ++ part)).contains = true →
      ∀ place ∈ other, ∃ root ∈ roots, place = root ++ part := by
    intro other hother hmeet
    obtain ⟨met, hmet, hcontains⟩ := List.any_eq_true.1 hmeet
    obtain ⟨root, hroot, rfl⟩ := List.mem_map.1 (List.contains_iff_mem.1 hcontains)
    rcases hgroups other hother with ⟨-, hnot⟩ | ⟨part', hpart'⟩
    · exact absurd (List.prefix_append root part) (hnot _ hmet root hroot)
    · obtain ⟨root', hroot', heq⟩ := hpart' _ hmet
      rcases hroots root hroot root' hroot' with rfl | hapart
      · rw [List.append_cancel_left heq]
        exact hpart'
      · exact absurd heq (hapart.append_ne part part')
  intro group hgroup
  unfold ChatFlow.joinGroup at hgroup
  split at hgroup
  · exact hgroups group hgroup
  · rcases List.mem_cons.1 hgroup with rfl | hkept
    · refine .inr ⟨part, fun place hplace => ?_⟩
      rcases List.mem_append.1 (List.mem_eraseDups.1 hplace) with hmet | hnew
      · obtain ⟨old, hold, hin⟩ := List.mem_flatten.1 hmet
        obtain ⟨hold, hmeet⟩ := List.mem_filter.1 hold
        exact hmeets old hold hmeet place hin
      · obtain ⟨root, hroot, rfl⟩ := List.mem_map.1 hnew
        exact ⟨root, hroot, rfl⟩
    · exact hgroups group (List.mem_filter.1 hkept).1

/-- So do all groups that are added for the parts of a value. -/
theorem foldl_joinGroup (hroots : Place.Antichain roots) {groups : List (List Place)}
    (hgroups : ∀ group ∈ groups, OldOrNew roots group) (parts : List Place) :
    ∀ group ∈ (parts.map fun part => roots.map (· ++ part)).foldl ChatFlow.joinGroup groups,
      OldOrNew roots group := by
  induction parts generalizing groups with
  | nil => exact hgroups
  | cons part rest ih => exact ih (joinGroup hroots hgroups part)

end OldOrNew

/-! ## Environments -/

namespace Env

variable {env : Env} {path : Path}

/-- Whether no object is a part of itself. -/
def IsAcyclic (env : Env) : Prop :=
  ∀ group ∈ env.shared, Place.Antichain group

/-- In variables as they were stored no object is a part of itself. -/
theorem isAcyclic_ofVariables (vars : Object) : (ofVariables vars).IsAcyclic :=
  fun _ hgroup => absurd hgroup List.not_mem_nil

theorem mem_placesOf_self (env : Env) (place : Place) : place ∈ env.placesOf place := by
  unfold placesOf
  cases hfound : env.shared.find? (·.contains place) with
  | none => exact List.mem_singleton_self place
  | some group =>
    have hcontains := List.find?_some hfound
    exact List.contains_iff_mem.1 hcontains

namespace IsAcyclic

theorem antichain_placesOf (h : env.IsAcyclic) (place : Place) :
    Place.Antichain (env.placesOf place) := by
  unfold placesOf
  cases hfound : env.shared.find? (·.contains place) with
  | none => exact .singleton place
  | some group => exact h group (List.mem_of_find?_eq_some hfound)

/-- **What was assigned at a path is found there**, whatever is shared. -/
theorem at?_assign (h : env.IsAcyclic) (hne : path ≠ []) (value : Value)
    (origin : Option Place) : (env.assign path value origin).vars.at? path = some value := by
  unfold Env.assign
  split
  · exact (Object.isWritten_writeAt env.vars hne value).found
  · obtain ⟨front, key, below, rfl, hholder⟩ := env.vars.holder_spec hne
    have hself := env.mem_placesOf_self (Path.place front)
    obtain ⟨after, hafter, hfound⟩ := Object.exists_at?_foldl_put hholder
      (fun holder hmem => h.antichain_placesOf _ holder hmem _ hself) hself value
    unfold assignShared
    rw [hholder]
    dsimp only
    rw [hafter]
    exact hfound

/-- **Assigning a new value** makes no object a part of itself. -/
theorem assign (h : env.IsAcyclic) (value : Value) :
    (env.assign path value none).IsAcyclic := by
  unfold Env.assign
  split
  · exact isAcyclic_ofVariables _
  · obtain ⟨front, key, below, hholder⟩ :
        ∃ front key below, env.vars.holder path = (front, key, below) := ⟨_, _, _, rfl⟩
    unfold assignShared
    rw [hholder]
    dsimp only
    have hroots : Place.Antichain ((env.placesOf front).map (· ++ [.field key])) :=
      (h.antichain_placesOf front).append [.field key] fun place hplace => by
        obtain ⟨holder, hmem, rfl⟩ := List.mem_map.1 hplace
        exact ⟨holder, hmem, rfl⟩
    intro group hgroup
    simp only [List.append_nil] at hgroup
    refine (OldOrNew.foldl_joinGroup hroots (fun old hold => ?_) _ group hgroup).antichain hroots
    obtain ⟨⟨before, hbefore, hsub⟩, hnot⟩ := exists_of_mem_dropUnder hold
    exact .inl ⟨(h before hbefore).mono hsub, hnot⟩

end IsAcyclic

/-- **A write is read back** at its path. -/
theorem IsAcyclic.read?_write (h : env.IsAcyclic) {path : String} (hne : path ≠ "")
    (value : Value) : (env.write path value).vars.read? path = .ok (some value) :=
  Object.read?_of_at? hne (h.at?_assign (Path.ofText_ne_nil path) value none)

theorem IsAcyclic.write (h : env.IsAcyclic) (path : String) (value : Value) :
    (env.write path value).IsAcyclic :=
  h.assign value

end Env

end ChatFlow

import Mathlib.Data.List.Basic
import ChatFlow.Proofs.Value.Places

/-!
# An item in its list and in a variable

An item that was taken from a list and put into a variable is no copy: its objects are found at two
places, in the variable and in the list (`Env.IsHandedOut`). So what is assigned below the variable
changes the item in the list too, and nothing else in the list (`IsHandedOut.assign`); and the
objects that are made then are found at both places again.

The item is handed out like this when it is put into the variable, if its objects were found nowhere
but in the list and in this variable before (`isHandedOut_assign`).
-/

namespace ChatFlow

/-- The places of an object of an item: in the variable to which the item was handed out, and in the
list. -/
def itemPair (here list : Place) (n : Nat) (part : Place) : List Place :=
  [here ++ part, list ++ .item n :: part]

/-- Whether a group of places is that of an object of the item, or has no place in the variable and
in the list. -/
def IsPairOrApart (here list : Place) (n : Nat) (group : List Place) : Prop :=
  (∃ part, group = itemPair here list n part) ∨
    ∀ place ∈ group, ¬ here <+: place ∧ ¬ list <+: place

/-! ## Groups -/

section Groups

variable {here list place part other : Place} {n : Nat} {group : List Place}
  {groups news : List (List Place)}

theorem mem_itemPair : place ∈ itemPair here list n part ↔
    place = here ++ part ∨ place = list ++ .item n :: part := by
  rw [itemPair, List.mem_cons, List.mem_singleton]

section

variable (h : here.Apart list)
include h

/-- A group that has one place of an object of the item has the other one too, and no more. -/
theorem IsPairOrApart.eq_itemPair (hgroup : IsPairOrApart here list n group)
    (hplace : place ∈ itemPair here list n part) (hmem : place ∈ group) :
    group = itemPair here list n part := by
  rcases hgroup with ⟨other, rfl⟩ | hout
  · rw [mem_itemPair] at hplace hmem
    rcases hplace with rfl | rfl <;> rcases hmem with heq | heq
    · rw [List.append_cancel_left heq]
    · exact absurd heq (h.append_ne part (.item n :: other))
    · exact absurd heq.symm (h.append_ne other (.item n :: part))
    · rw [(List.cons.inj (List.append_cancel_left heq)).2]
  · obtain ⟨hhere, hlist⟩ := hout place hmem
    rcases mem_itemPair.1 hplace with rfl | rfl
    · exact absurd (List.prefix_append _ _) hhere
    · exact absurd (List.prefix_append _ _) hlist

/-- Copies of a pair come down to the pair. -/
theorem eraseDups_itemPair {copies : List (List Place)}
    (hcopies : ∀ copy ∈ copies, copy = itemPair here list n part) :
    (copies.flatten ++ itemPair here list n part).eraseDups = itemPair here list n part := by
  have hpair : ∀ rest : List Place, (∀ place ∈ rest, place ∈ itemPair here list n part) →
      (itemPair here list n part ++ rest).eraseDups = itemPair here list n part := by
    intro rest hrest
    have hne := h.append_ne part (.item n :: part)
    have hgone : List.filter (fun place => !place == list ++ .item n :: part)
        (List.filter (fun place => !place == here ++ part) rest) = [] := by
      rw [List.filter_filter, List.filter_eq_nil_iff]
      intro place hplace
      rcases mem_itemPair.1 (hrest place hplace) with rfl | rfl <;> simp
    rw [itemPair, List.cons_append, List.singleton_append, List.eraseDups_cons,
      List.filter_cons_of_pos (by simpa using hne.symm), List.eraseDups_cons, hgone]
    rfl
  cases copies with
  | nil => simpa using hpair [] (by simp)
  | cons copy rest =>
    rw [List.flatten_cons, hcopies copy List.mem_cons_self, List.append_assoc]
    refine hpair _ fun place hplace => ?_
    rcases List.mem_append.1 hplace with hcopy | hplace
    · obtain ⟨other, hother, hin⟩ := List.mem_flatten.1 hcopy
      rwa [← hcopies other (List.mem_cons_of_mem _ hother)]
    · exact hplace

/-- A pair that is added to the groups is one of them, and so are the pairs that were there. -/
theorem joinGroup_itemPair (hgroups : ∀ group ∈ groups, IsPairOrApart here list n group)
    (part : Place) :
    (∀ group ∈ joinGroup groups (itemPair here list n part), IsPairOrApart here list n group) ∧
      ∀ other, other = part ∨ itemPair here list n other ∈ groups →
        itemPair here list n other ∈ joinGroup groups (itemPair here list n part) := by
  have hmeets : ∀ group ∈ groups, group.any (itemPair here list n part).contains = true →
      group = itemPair here list n part := by
    intro group hgroup hany
    obtain ⟨place, hplace, hin⟩ := List.any_eq_true.1 hany
    exact (hgroups group hgroup).eq_itemPair h (by simpa using hin) hplace
  have hjoin : joinGroup groups (itemPair here list n part) = itemPair here list n part ::
      groups.filter fun group => !group.any (itemPair here list n part).contains := by
    rw [joinGroup, if_neg (by simp [itemPair])]
    refine congrArg (· :: _) (eraseDups_itemPair h fun copy hcopy => ?_)
    obtain ⟨hmem, hany⟩ := List.mem_filter.1 hcopy
    exact hmeets copy hmem hany
  rw [hjoin]
  constructor
  · intro group hgroup
    rcases List.mem_cons.1 hgroup with rfl | hold
    · exact .inl ⟨part, rfl⟩
    · exact hgroups group (List.mem_filter.1 hold).1
  · intro other hother
    by_cases hsame : other = part
    · exact hsame ▸ List.mem_cons_self
    · have hold := hother.resolve_left hsame
      refine List.mem_cons_of_mem _ (List.mem_filter.2 ⟨hold, ?_⟩)
      rw [Bool.not_eq_true', Bool.eq_false_iff]
      intro hany
      have heq := (List.cons.inj (hmeets _ hold hany)).1
      exact hsame (List.append_cancel_left heq)

theorem foldl_joinGroup_itemPair (hgroups : ∀ group ∈ groups, IsPairOrApart here list n group)
    (hnews : ∀ new ∈ news, new.length < 2 ∨ ∃ part, new = itemPair here list n part) :
    (∀ group ∈ news.foldl joinGroup groups, IsPairOrApart here list n group) ∧
      ∀ part, itemPair here list n part ∈ groups ∨ itemPair here list n part ∈ news →
        itemPair here list n part ∈ news.foldl joinGroup groups := by
  induction news generalizing groups with
  | nil => exact ⟨hgroups, fun part hpart => hpart.resolve_right List.not_mem_nil⟩
  | cons new rest ih =>
    have hrest := fun other hother => hnews other (List.mem_cons_of_mem _ hother)
    rw [List.foldl_cons]
    rcases hnews new List.mem_cons_self with hshort | ⟨part, rfl⟩
    · have hsame : joinGroup groups new = groups := if_pos hshort
      obtain ⟨hall, hkept⟩ := ih hgroups hrest
      rw [hsame]
      refine ⟨hall, fun part hpart => hkept part ?_⟩
      rw [List.mem_cons] at hpart
      rcases hpart with hold | rfl | hlater
      · exact .inl hold
      · simp [itemPair] at hshort
      · exact .inr hlater
    · obtain ⟨hjoined, hadded⟩ := joinGroup_itemPair h hgroups part
      obtain ⟨hall, hkept⟩ := ih hjoined hrest
      refine ⟨hall, fun other hother => hkept other ?_⟩
      rw [List.mem_cons] at hother
      rcases hother with hold | hnew | hlater
      · exact .inl (hadded other (.inr hold))
      · refine .inl (hadded other (.inl ?_))
        exact List.append_cancel_left (List.cons.inj hnew).1
      · exact .inr hlater

end

/-- Dropping places that are not in the item keeps its pairs, and dropping a part of the item keeps
those of the rest. -/
theorem dropUnder_itemPair {gone : List Place}
    (hgroups : ∀ group ∈ groups, IsPairOrApart here list n group)
    (hgone : ∀ part, gone.any (·.isPrefixOf (here ++ part)) =
      gone.any (·.isPrefixOf (list ++ .item n :: part))) :
    (∀ group ∈ dropUnder gone groups, IsPairOrApart here list n group) ∧
      ∀ part, itemPair here list n part ∈ groups →
        gone.any (·.isPrefixOf (here ++ part)) = false →
        itemPair here list n part ∈ dropUnder gone groups := by
  have hpair : ∀ part, gone.any (·.isPrefixOf (here ++ part)) = false →
      (itemPair here list n part).filter (fun place => !gone.any (·.isPrefixOf place)) =
        itemPair here list n part := by
    intro part hpart
    have hother := (hgone part).symm.trans hpart
    simp only [itemPair, List.filter_cons, hpart, hother]
    rfl
  constructor
  · intro group hgroup
    obtain ⟨hmem, hlength⟩ := List.mem_filter.1 hgroup
    obtain ⟨old, hold, rfl⟩ := List.mem_map.1 hmem
    rcases hgroups old hold with ⟨part, rfl⟩ | hout
    · cases hpart : gone.any (·.isPrefixOf (here ++ part)) with
      | false => exact .inl ⟨part, hpair part hpart⟩
      | true =>
        have hother := (hgone part).symm.trans hpart
        simp [itemPair, hpart, hother] at hlength
    · exact .inr fun place hplace => hout place (List.mem_filter.1 hplace).1
  · intro part hmem hpart
    refine List.mem_filter.2 ⟨List.mem_map.2 ⟨_, hmem, hpair part hpart⟩, ?_⟩
    simp [itemPair]

/-- What of an item lies under a pair. -/
theorem any_isPrefixOf_itemPair (h : here.Apart list) (other part : Place) :
    (itemPair here list n other).any (·.isPrefixOf (here ++ part)) = other.isPrefixOf part ∧
      (itemPair here list n other).any (·.isPrefixOf (list ++ .item n :: part)) =
        other.isPrefixOf part := by
  have hfirst : ¬ list ++ .item n :: other <+: here ++ part :=
    ((h.append_left part).append_right (.item n :: other)).2
  have hsecond : ¬ here ++ other <+: list ++ .item n :: part :=
    ((h.append_left other).append_right (.item n :: part)).1
  constructor <;> rw [Bool.eq_iff_iff] <;>
    simp only [itemPair, List.any_cons, List.any_nil, Bool.or_false, Bool.or_eq_true,
      List.isPrefixOf_iff_prefix, hfirst, hsecond, or_false, false_or,
      List.prefix_append_right_inj, List.cons_prefix_cons, true_and]

theorem any_isPrefixOf_singleton {under place : Place} :
    [under].any (·.isPrefixOf place) = true ↔ under <+: place := by
  rw [List.any_cons, List.any_nil, Bool.or_false, List.isPrefixOf_iff_prefix]

/-- Dropping more leaves no more in the groups. -/
theorem exists_sublist_of_mem_dropUnder {gone gone' : List Place}
    (hmore : ∀ place, gone.any (·.isPrefixOf place) = true → gone'.any (·.isPrefixOf place) = true)
    (h : group ∈ dropUnder gone' groups) :
    ∃ wider ∈ dropUnder gone groups, List.Sublist group wider := by
  obtain ⟨hmem, hlength⟩ := List.mem_filter.1 h
  obtain ⟨old, hold, rfl⟩ := List.mem_map.1 hmem
  have hsub : List.Sublist (old.filter fun place => !gone'.any (·.isPrefixOf place))
      (old.filter fun place => !gone.any (·.isPrefixOf place)) := by
    refine List.monotone_filter_right old fun place hplace => ?_
    rw [Bool.not_eq_true', Bool.eq_false_iff] at hplace ⊢
    exact fun hgone => hplace (hmore place hgone)
  refine ⟨_, List.mem_filter.2 ⟨List.mem_map_of_mem hold, ?_⟩, hsub⟩
  have hle := hsub.length_le
  simp only [decide_eq_true_eq] at hlength ⊢
  exact Nat.lt_of_lt_of_le hlength hle

/-- What dropping leaves of a group is one place, if it is in none of the groups that are left. -/
theorem filter_eq_singleton {gone : List Place} (hgroup : group ∈ groups) (hplace : place ∈ group)
    (hstay : gone.any (·.isPrefixOf place) = false)
    (hlone : ∀ left ∈ dropUnder gone groups, place ∉ left) :
    (group.filter fun place => !gone.any (·.isPrefixOf place)) = [place] := by
  have hmem : place ∈ group.filter fun place => !gone.any (·.isPrefixOf place) :=
    List.mem_filter.2 ⟨hplace, by rw [hstay]; rfl⟩
  have hlength : (group.filter fun place => !gone.any (·.isPrefixOf place)).length = 1 := by
    refine Nat.le_antisymm (Nat.le_of_not_lt fun hlong => ?_) (List.length_pos_of_mem hmem)
    refine hlone _ (List.mem_filter.2 ⟨List.mem_map_of_mem hgroup, ?_⟩) hmem
    exact decide_eq_true hlong
  obtain ⟨only, honly⟩ := List.length_eq_one_iff.1 hlength
  rw [honly, List.mem_singleton] at hmem
  rw [honly, hmem]

end Groups

namespace Env

theorem placesOf_cases (env : Env) (place : Place) :
    env.placesOf place = [place] ∨
      env.placesOf place ∈ env.shared ∧ place ∈ env.placesOf place := by
  unfold placesOf
  cases hfound : env.shared.find? (·.contains place) with
  | none => exact .inl rfl
  | some group =>
    exact .inr ⟨List.mem_of_find?_eq_some hfound, by simpa using List.find?_some hfound⟩

variable {env : Env} {here list : Place} {items : List Value} {n : Nat} {item : Object}

/-- Whether an item of a list is handed out to a place of the variables: it is found there and in
the list, its objects are found at these two places, and no others are shared there. -/
structure IsHandedOut (env : Env) (here list : Place) (items : List Value) (n : Nat)
    (item : Object) : Prop where
  found : (Value.object env.vars).part? here = some (.object item)
  listed : (Value.object env.vars).part? list = some (.list (items.set n (.object item)))
  groups : ∀ group ∈ env.shared, IsPairOrApart here list n group
  pairs : ∀ part inner, (Value.object item).part? part = some (.object inner) →
    itemPair here list n part ∈ env.shared

namespace IsHandedOut

theorem isEmpty_eq_false (h : env.IsHandedOut here list items n item) :
    env.shared.isEmpty = false := by
  have hpair := h.pairs [] item (Value.part?_nil _)
  cases hshared : env.shared with
  | nil => exact absurd (hshared ▸ hpair) List.not_mem_nil
  | cons group rest => rfl

/-- An object of the item is found in the variable and in the list. -/
theorem placesOf_eq (h : env.IsHandedOut here list items n item) (hapart : here.Apart list)
    {part : Place} {inner : Object}
    (hpart : (Value.object item).part? part = some (.object inner)) :
    env.placesOf (here ++ part) = itemPair here list n part := by
  have hmem : here ++ part ∈ itemPair here list n part := mem_itemPair.2 (.inl rfl)
  have hsome : (env.shared.find? (·.contains (here ++ part))).isSome = true :=
    List.find?_isSome.2 ⟨_, h.pairs part inner hpart, by simpa using hmem⟩
  obtain ⟨group, hgroup⟩ := Option.isSome_iff_exists.1 hsome
  have hin : here ++ part ∈ group := by simpa using List.find?_some hgroup
  rw [placesOf, hgroup, Option.getD_some]
  exact (h.groups group (List.mem_of_find?_eq_some hgroup)).eq_itemPair hapart hmem hin

/-- A variable beside the item and its list changes nothing for them. -/
theorem of_field? {env' : Env} {name : String} (h : env.IsHandedOut here list items n item)
    (hhere : Place.Apart [.field name] here) (hlist : Place.Apart [.field name] list)
    (hvars : ∀ other, name ≠ other → env'.vars.field? other = env.vars.field? other)
    (hshared : env'.shared = dropUnder [[.field name]] env.shared) :
    env'.IsHandedOut here list items n item := by
  have hpart : ∀ place, Place.Apart [.field name] place →
      (Value.object env'.vars).part? place = (Value.object env.vars).part? place := by
    intro place hplace
    match place, hplace with
    | [], hplace => exact absurd List.nil_prefix hplace.2
    | .item _ :: _, _ => rfl
    | .field other :: rest, hplace =>
      refine Value.part?_congr (hvars other fun heq => hplace.1 ?_) rest
      exact heq ▸ List.cons_prefix_cons.2 ⟨rfl, List.nil_prefix⟩
  have hout : ∀ place, Place.Apart [.field name] place →
      [[PlaceStep.field name]].any (·.isPrefixOf place) = false := by
    intro place hplace
    rw [Bool.eq_false_iff, Ne, any_isPrefixOf_singleton]
    exact hplace.1
  obtain ⟨hgroups, hpairs⟩ := dropUnder_itemPair h.groups fun part =>
    (hout _ (hhere.append_right part)).trans (hout _ (hlist.append_right _)).symm
  refine ⟨(hpart _ hhere).trans h.found, (hpart _ hlist).trans h.listed, ?_, ?_⟩
  · rwa [hshared]
  · intro part inner hinner
    rw [hshared]
    exact hpairs part (h.pairs part inner hinner) (hout _ (hhere.append_right part))

theorem remove {name : String} (h : env.IsHandedOut here list items n item)
    (hhere : Place.Apart [.field name] here) (hlist : Place.Apart [.field name] list) :
    (env.remove name).IsHandedOut here list items n item :=
  h.of_field? hhere hlist (fun _ hne => Object.field?_remove_of_ne hne _) rfl

theorem putInt {name : String} (h : env.IsHandedOut here list items n item)
    (hrooted : env.IsRooted) (hhere : Place.Apart [.field name] here)
    (hlist : Place.Apart [.field name] list) (number : Int) :
    (env.put name (.int number)).IsHandedOut here list items n item := by
  refine h.of_field? hhere hlist (fun _ hne => hrooted.field?_put_of_ne hne _) ?_
  have hplaces : env.placesOf [] = [[]] := placesOf_of_not_isShared hrooted
  rw [Env.put, Env.assign, h.isEmpty_eq_false, assignShared]
  simp only [Object.holder, hplaces, Value.nested, Value.objectPlaces]
  rfl

end IsHandedOut

/-! ## Assigning in an item -/

/-- Assigns a field of an object of an item, in the variable and in the list. -/
def assignPair (env : Env) (here list : Place) (n : Nat) (place : Place) (key : String)
    (content : Value) : Env :=
  let change : Object → Object := (Object.put · key content)
  let tree := ((Value.object env.vars).changeObject change (here ++ place)).changeObject change
    (list ++ .item n :: place)
  ⟨tree.object?.getD [],
    (content.objectPlaces.map fun part =>
      itemPair here list n (place ++ .field key :: part)).foldl joinGroup
        (dropUnder (itemPair here list n (place ++ [.field key])) env.shared)⟩

section AssigningInItem

variable {place other : Place} {key : String} {content value : Value} {object item' : Object}
  {path rest below : Path}

theorem vars_assignPair (env : Env) (here list : Place) (n : Nat) (place : Place) (key : String)
    (content : Value) :
    Value.object (env.assignPair here list n place key content).vars =
      ((Value.object env.vars).changeObject (Object.put · key content)
        (here ++ place)).changeObject (Object.put · key content) (list ++ .item n :: place) := by
  obtain ⟨middle, hmiddle⟩ :=
    Value.changeObject_object env.vars (Object.put · key content) (here ++ place)
  obtain ⟨after, hafter⟩ :=
    Value.changeObject_object middle (Object.put · key content) (list ++ .item n :: place)
  rw [assignPair, hmiddle, hafter]
  rfl

/-- Parts that are in no item are kept. -/
theorem part?_assignPair (hhere : here.Apart other) (hlist : list.Apart other) :
    (Value.object (env.assignPair here list n place key content).vars).part? other =
      (Value.object env.vars).part? other := by
  rw [vars_assignPair, Value.part?_changeObject_of_apart _ _ (hlist.append_left _),
    Value.part?_changeObject_of_apart _ _ (hhere.append_left _)]

namespace IsHandedOut

/-- An item stays handed out when a field of one of its objects is assigned at both places. -/
theorem assignPair (h : env.IsHandedOut here list items n item) (hapart : here.Apart list)
    (hobject : (Value.object item).part? place = some (.object object))
    (hitem : (Value.object item).changeObject (Object.put · key content) place = .object item') :
    (env.assignPair here list n place key content).IsHandedOut here list items n item' := by
  have hgone : ∀ part, (itemPair here list n (place ++ [.field key])).any
      (·.isPrefixOf (here ++ part)) = (place ++ [PlaceStep.field key]).isPrefixOf part :=
    fun part => (any_isPrefixOf_itemPair hapart _ _).1
  obtain ⟨hdropped, hleft⟩ := dropUnder_itemPair h.groups fun part =>
    (hgone part).trans (any_isPrefixOf_itemPair hapart _ _).2.symm
  obtain ⟨hgroups, hpairs⟩ := foldl_joinGroup_itemPair hapart hdropped <|
    List.forall_mem_map.2 fun part (_ : part ∈ content.objectPlaces) =>
      .inr ⟨place ++ .field key :: part, rfl⟩
  refine ⟨?_, ?_, hgroups, fun part inner hinner => hpairs part ?_⟩
  · rw [vars_assignPair, Value.part?_changeObject_of_apart _ _ (hapart.symm.append_left _),
      Value.part?_changeObject_append, h.found, Option.map_some, hitem]
  · rw [vars_assignPair, Value.part?_changeObject_append,
      Value.part?_changeObject_of_apart _ _ (hapart.append_left _), h.listed, Option.map_some,
      Value.changeObject_list_set, hitem]
  · rw [← hitem] at hinner
    by_cases hnew : place ++ [PlaceStep.field key] <+: part
    · obtain ⟨rest, rfl⟩ := hnew
      rw [List.append_assoc, List.singleton_append] at hinner ⊢
      rw [Value.part?_changeObject_field hobject] at hinner
      exact .inr (List.mem_map.2 ⟨rest, Value.mem_objectPlaces hinner, rfl⟩)
    · obtain ⟨before, hbefore⟩ := Value.exists_object_of_changeObject_put hinner hnew
      refine .inl (hleft part (h.pairs part before hbefore) ?_)
      rw [hgone, Bool.eq_false_iff]
      exact fun hprefix => hnew (List.isPrefixOf_iff_prefix.1 hprefix)

/-- Assigning below the variable of an item assigns a field of one of the item's objects, at both
places. -/
theorem assign_eq (h : env.IsHandedOut (Path.place path) list items n item)
    (hapart : (Path.place path).Apart list) (hpath : path ≠ []) (hrest : rest ≠ [])
    (hholder : item.holder rest = (place, key, below))
    (hobject : (Value.object item).part? place = some (.object object)) (value : Value) :
    env.assign (path ++ rest) value none =
      env.assignPair (Path.place path) list n place key (value.nested below) := by
  have hat : env.vars.at? path = some (.object item) :=
    (Object.at?_eq_part? _ hpath).trans h.found
  rw [Env.assign, h.isEmpty_eq_false, assignShared, Object.holder_append hat hrest hholder]
  simp only [h.placesOf_eq hapart hobject, itemPair, Bool.false_and, List.map_cons, List.map_nil,
    List.foldl_cons, List.foldl_nil, List.append_assoc, List.cons_append, List.nil_append,
    List.append_nil]
  rfl

/-- **Assigning below the variable** of the item assigns in the item, in the variable and in the
list. No other part of the variables is changed. -/
theorem assign (h : env.IsHandedOut (Path.place path) list items n item)
    (hapart : (Path.place path).Apart list) (hpath : path ≠ []) (hrest : rest ≠ [])
    (value : Value) :
    ∃ item', Object.IsWritten item item' rest value ∧
      (env.assign (path ++ rest) value none).IsHandedOut (Path.place path) list items n item' ∧
      ∀ place, (Path.place path).Apart place → list.Apart place →
        (Value.object (env.assign (path ++ rest) value none).vars).part? place =
          (Value.object env.vars).part? place := by
  obtain ⟨place, key, below, hholder⟩ : ∃ place key below, item.holder rest = (place, key, below) :=
    ⟨_, _, _, rfl⟩
  obtain ⟨object, hobject⟩ := item.part?_holder hrest
  rw [hholder] at hobject
  obtain ⟨item', hitem', hwritten⟩ := Object.changeObject_holder hrest hholder value
  rw [h.assign_eq hapart hpath hrest hholder hobject value]
  exact ⟨item', hwritten, h.assignPair hapart hobject hitem',
    fun other hhere hlist => part?_assignPair hhere hlist⟩

end IsHandedOut

end AssigningInItem

/-! ## Handing out -/

section HandingOut

variable {first name key : String} {later front below path : Path} {rest target : Place}

/-- Whether no object in a list is found anywhere else but under a place. -/
def IsLone (env : Env) (under list : Place) : Prop :=
  ∀ group ∈ dropUnder [under] env.shared, ∀ place ∈ group, ¬ list <+: place

theorem isLone_ofVariables (vars : Object) (under list : Place) :
    (ofVariables vars).IsLone under list := by
  intro group hgroup
  cases hgroup

theorem IsLone.of_prefix {under wider : Place} (h : env.IsLone under list)
    (hwider : wider <+: under) : env.IsLone wider list := by
  intro group hgroup place hplace
  have hmore : ∀ place, [under].any (·.isPrefixOf place) = true →
      [wider].any (·.isPrefixOf place) = true := by
    intro place hunder
    rw [any_isPrefixOf_singleton] at hunder ⊢
    exact hwider.trans hunder
  obtain ⟨left, hleft, hsub⟩ := exists_sublist_of_mem_dropUnder hmore hgroup
  exact h left hleft place (hsub.subset hplace)

/-- Beside its places under the variable, an object in the list is found there only. -/
theorem IsLone.filter_placesOf {under : Place} (h : env.IsLone under list)
    (hapart : under.Apart list) (part : Place) :
    ((env.placesOf (list ++ part)).filter fun place => !([under].any (·.isPrefixOf place))) =
      [list ++ part] := by
  have hstay : [under].any (·.isPrefixOf (list ++ part)) = false := by
    rw [Bool.eq_false_iff, Ne, any_isPrefixOf_singleton]
    exact (hapart.append_right part).1
  rcases env.placesOf_cases (list ++ part) with hsingle | ⟨hmem, hin⟩
  · rw [hsingle, List.filter_cons_of_pos (by rw [hstay]; rfl), List.filter_nil]
  · exact filter_eq_singleton hmem hin hstay fun left hleft hplace =>
      h left hleft _ hplace (List.prefix_append _ _)

/-- Where an object in a value that is assigned from a place was found before. -/
def sources (env : Env) (source target : Place) (below : Path) (part : Place) : List Place :=
  if below.length ≤ part.length then
    (env.placesOf (source ++ part.drop below.length)).filter
      fun place => !([target].any (·.isPrefixOf place))
  else []

/-- What assigning an object at an own path shares. -/
theorem shared_assign_object (item : Object) (source : Place)
    (hholder : env.vars.holder path = (Path.place front, key, below))
    (hplaces : env.placesOf (Path.place front) = [Path.place front]) :
    (env.assign path (.object item) (some source)).shared =
      (((Value.object item).nested below).objectPlaces.map fun part =>
          (Path.place front ++ [.field key] ++ part) ::
            env.sources source (Path.place front ++ [.field key]) below part).foldl joinGroup
        (dropUnder [Path.place front ++ [.field key]] env.shared) := by
  rw [Env.assign, if_neg (by simp [Value.objectPlaces]), assignShared, hholder]
  simp only [hplaces]
  rfl

/-- The places of an object in an item that is assigned are its pair. -/
theorem cons_sources_eq (h : env.IsLone target list) (hapart : target.Apart list) (n : Nat)
    (below : Path) (part : Place) :
    (target ++ (Path.place below ++ part)) ::
        env.sources (list ++ [.item n]) target below (Path.place below ++ part) =
      itemPair (target ++ Path.place below) list n part := by
  have hlength : (Path.place below).length = below.length := List.length_map _
  have hle : below.length ≤ (Path.place below ++ part).length := by
    rw [List.length_append, hlength]
    exact Nat.le_add_right _ _
  rw [sources, if_pos hle, ← hlength, List.drop_left, List.append_assoc, List.singleton_append,
    h.filter_placesOf hapart, itemPair, List.append_assoc]

/-- Where an own path leads begins with a place at which no object is shared. -/
theorem Owns.exists_target (hown : env.Owns (first :: later)) :
    ∃ front key below, env.vars.holder (first :: later) = (Path.place front, key, below) ∧
      env.placesOf (Path.place front) = [Path.place front] ∧
      Path.place (first :: later) = Path.place front ++ [.field key] ++ Path.place below ∧
      [.field first] <+: Path.place front ++ [.field key] := by
  obtain ⟨front, key, below, hsegments, hholder⟩ :=
    env.vars.holder_spec (List.cons_ne_nil first later)
  have hplaces : env.placesOf (Path.place front) = [Path.place front] :=
    placesOf_of_not_isShared (hown front (key :: below) (List.cons_ne_nil _ _) hsegments.symm)
  refine ⟨front, key, below, hholder, hplaces, ?_, ?_⟩
  · rw [hsegments, Path.place_append, Path.place_cons, List.append_assoc, List.singleton_append]
  · cases front with
    | nil => exact (List.cons.inj hsegments).1 ▸ List.prefix_refl _
    | cons head front =>
      exact (List.cons.inj hsegments).1 ▸ List.cons_prefix_cons.2 ⟨rfl, List.nil_prefix⟩

/-- **An item is handed out** when it is assigned to a variable. On the way to the variable no
object is found elsewhere, and in the list none is found elsewhere but under this variable. -/
theorem isHandedOut_assign (hown : env.Owns (first :: later)) (hne : first ≠ name)
    (hlone : env.IsLone (Path.place (first :: later)) (.field name :: rest))
    (hlist : (Value.object env.vars).part? (.field name :: rest) = some (.list items))
    (hitem : items[n]? = some (.object item)) :
    (env.assign (first :: later) (.object item)
      (some (.field name :: rest ++ [.item n]))).IsHandedOut (Path.place (first :: later))
        (.field name :: rest) items n item := by
  have hpath := List.cons_ne_nil first later
  have hwritten := hown.isWritten_assign hpath (.object item)
    (some (.field name :: rest ++ [.item n]))
  obtain ⟨front, key, below, hholder, hplaces, hhere, hfirst⟩ := hown.exists_target
  have hshared := shared_assign_object item (.field name :: rest ++ [.item n]) hholder hplaces
  generalize Path.place front ++ [.field key] = target at hhere hfirst hshared
  have hapart : target.Apart (.field name :: rest) := by
    obtain ⟨after, rfl⟩ := hfirst
    exact (Place.Apart.field_cons hne _).append_left after
  have hlone' : env.IsLone target (.field name :: rest) :=
    hlone.of_prefix (hhere ▸ List.prefix_append _ _)
  have hpair := hhere ▸ cons_sources_eq hlone' hapart n below
  have hout : (Path.place (first :: later)).Apart (.field name :: rest) :=
    hhere ▸ hapart.append_left _
  have hdropped : ∀ group ∈ dropUnder [target] env.shared,
      IsPairOrApart (Path.place (first :: later)) (.field name :: rest) n group := by
    refine fun group hgroup => .inr fun place hplace =>
      ⟨fun hunder => ?_, hlone' group hgroup place hplace⟩
    obtain ⟨-, hkept⟩ := mem_dropUnder ⟨group, hgroup, hplace⟩
    exact hkept target (List.mem_singleton_self _)
      ((List.prefix_append _ _).trans (hhere ▸ hunder))
  have hnews : ∀ part ∈ ((Value.object item).nested below).objectPlaces,
      ((target ++ part) ::
        env.sources (.field name :: rest ++ [.item n]) target below part).length < 2 ∨
      ∃ inner, (target ++ part) ::
        env.sources (.field name :: rest ++ [.item n]) target below part =
          itemPair (Path.place (first :: later)) (.field name :: rest) n inner := by
    intro part hpart
    rcases Value.mem_objectPlaces_nested hpart with hshort | ⟨inner, rfl⟩
    · -- an object that is made on the way is at its new place only
      rw [sources, if_neg (Nat.not_le.2 hshort)]
      exact .inl (Nat.lt_succ_self 1)
    · exact .inr ⟨inner, hpair inner⟩
  obtain ⟨hgroups, hfound⟩ :=
    foldl_joinGroup_itemPair hout hdropped (List.forall_mem_map.2 hnews)
  rw [← hshared] at hgroups hfound
  refine ⟨?_, ?_, hgroups, fun part inner hinner => hfound part (.inr ?_)⟩
  · exact (Object.at?_eq_part? _ hpath).symm.trans hwritten.found
  · rw [Value.set_of_getElem? hitem, ← hlist]
    exact Value.part?_congr (hown.field?_assign_of_ne hne _ _) rest
  · have hobject : ((Value.object item).nested below).part? (Path.place below ++ part) =
        some (.object inner) := by
      rw [Value.part?_append, Value.part?_nested, Option.bind_some, hinner]
    exact List.mem_map.2 ⟨_, Value.mem_objectPlaces hobject, hpair part⟩

end HandingOut

end Env

end ChatFlow

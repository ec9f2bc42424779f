import Mathlib
import ChatFlow.Env
import ChatFlow.Proofs.Value.Paths

/-!
# Reading after writing

What is read after a value was written at a path. At the path itself it is the value, whatever was
there before. At a path that is apart from it, reading gives what it gave before, a value or nothing
or a failure, if there is no list on the way to the written path: reading then comes to the same
places as before, also where objects were made on the way (`IsWritten.walk_of_apart`).

Reading finds the items of a list, but writing does not. A list on the way to a path is replaced by
an object, with all that was in it (`Object.writeAt_append`).

Main statements: `Object.write_reads_back`, `Object.write_spares_apart`, `Object.write_loses_list`.
-/

namespace ChatFlow

/-! ## Segments -/

/-- A whole path names another variable than the one that holds what another path leads to, if the
paths are apart. -/
theorem Path.Apart.trim_ne {path other : String}
    (h : (Path.ofText path).Apart (Path.ofText other)) : trim other ≠ firstSegment path := by
  intro heq
  obtain ⟨rest, hpath, hdots, -⟩ := Path.ofText_spec path
  have hother : Path.ofText other = [firstSegment path] := by
    rw [Path.ofText_of_no_dot (heq ▸ hdots), heq]
  refine h.2 ?_
  rw [hother, hpath, List.cons_prefix_cons]
  exact ⟨rfl, List.nil_prefix⟩

/-- A path that goes on from where it leads goes on there. -/
theorem Value.walk_append {value found : Value} {path : Path}
    (h : value.walk path = .ok (some found)) (rest : Path) :
    value.walk (path ++ rest) = found.walk rest := by
  induction path generalizing value with
  | nil =>
    obtain rfl : value = found := by
      cases value <;> exact Option.some.inj (Except.ok.inj h)
    rfl
  | cons segment path ih =>
    cases value with
    | object fields =>
      rw [walk] at h
      rw [List.cons_append, walk]
      cases hfield : Object.field? fields segment with
      | none => simp [hfield] at h
      | some inner =>
        simp only [hfield] at h
        exact ih h
    | list items =>
      rw [walk] at h
      rw [List.cons_append, walk]
      split at h
      · next hdigits =>
        rw [if_pos hdigits]
        cases hindex : decimalNat? segment with
        | none => simp [hindex] at h
        | some index =>
          simp only [hindex] at h ⊢
          cases hitem : items[index]? with
          | none => simp [hitem] at h
          | some inner =>
            simp only [hitem] at h
            exact ih h
      · cases h
    | _ => cases h

namespace Object

variable {before after fields : Object} {path other : Path} {key : String} {value : Value}

/-! ## Following paths -/

theorem at?_append (fields : Object) {front rest : Path} (hfront : front ≠ []) (hrest : rest ≠ []) :
    fields.at? (front ++ rest) = ((fields.at? front).bind Value.object?).bind (at? · rest) := by
  induction front generalizing fields with
  | nil => exact absurd rfl hfront
  | cons key front ih =>
    cases front with
    | nil => exact at?_cons fields key hrest
    | cons next front =>
      rw [List.cons_append, at?_cons _ _ (by simp), at?_cons _ _ (List.cons_ne_nil _ _)]
      cases (fields.field? key).bind Value.object? with
      | none => rfl
      | some inner => exact ih inner (List.cons_ne_nil _ _)

/-- Below a field that holds no list, a path leads to what it leads to in the object there, or in an
empty one if there is none. -/
theorem walk_cons_of_not_list (h : ∀ items, fields.field? key ≠ some (.list items))
    (hne : path ≠ []) :
    (Value.object fields).walk (key :: path) =
      (Value.object (((fields.field? key).bind Value.object?).getD [])).walk path := by
  obtain ⟨name, rest, rfl⟩ := List.exists_cons_of_ne_nil hne
  rw [Value.walk]
  cases hfield : fields.field? key with
  | none => rfl
  | some found =>
    cases found with
    | list items => exact absurd hfield (h items)
    | object inner => rfl
    | _ => rfl

/-- What is written below a field is written in the object there, or in an empty one if there is
none. -/
theorem IsWritten.of_cons (h : IsWritten before after (key :: path) value) (hne : path ≠ []) :
    ∃ inner, after.field? key = some (.object inner) ∧
      IsWritten (((before.field? key).bind Value.object?).getD []) inner path value := by
  have hat := (at?_cons _ _ hne).symm.trans h.found
  obtain ⟨inner, hinner, hfound⟩ := Option.bind_eq_some_iff.1 hat
  obtain ⟨held, hheld, hobject⟩ := Option.bind_eq_some_iff.1 hinner
  obtain rfl : held = .object inner := by
    cases held with
    | object inner' => rw [show inner' = inner from Option.some.inj hobject]
    | _ => cases hobject
  refine ⟨inner, hheld, hfound, fun other hapart => ?_⟩
  have hkept := h.kept (key :: other) (Path.Apart.cons_iff.2 hapart)
  rw [at?_cons _ _ hapart.ne_nil, at?_cons _ _ hapart.ne_nil, hheld] at hkept
  rw [at?_getD_object]
  exact hkept

/-- **A write changes nothing for paths that are apart** from its own, if there is no list on the
way to it. -/
theorem IsWritten.walk_of_apart (h : IsWritten before after path value)
    (hlists : ∀ front rest, rest ≠ [] → front ++ rest = path →
      ∀ items, before.at? front ≠ some (.list items))
    (hapart : path.Apart other) :
    (Value.object after).walk other = (Value.object before).walk other := by
  induction path generalizing before after other with
  | nil => cases h.found
  | cons key rest ih =>
    obtain ⟨name, later, rfl⟩ := List.exists_cons_of_ne_nil hapart.ne_nil
    by_cases hname : key = name
    · subst hname
      have hlater := Path.Apart.cons_iff.1 hapart
      have hrest : rest ≠ [] := hlater.symm.ne_nil
      obtain ⟨inner, hinner, hwritten⟩ := h.of_cons hrest
      have hno : ∀ items, before.field? key ≠ some (.list items) := hlists [key] rest hrest rfl
      have hnone : ∀ items, after.field? key ≠ some (.list items) := by
        intro items hlist
        cases hinner.symm.trans hlist
      rw [walk_cons_of_not_list hnone hlater.ne_nil, walk_cons_of_not_list hno hlater.ne_nil,
        hinner]
      refine ih hwritten (fun front below hbelow heq items hitems => ?_) hlater
      have hfront : front ≠ [] := by
        rintro rfl
        cases hitems
      refine hlists (key :: front) below hbelow (congrArg (key :: ·) heq) items ?_
      rw [at?_cons _ _ hfront, ← at?_getD_object, hitems]
    · exact walk_congr (h.kept [name] (.of_head_ne hname)) later

/-- In an empty object, writing makes all objects on the way. -/
theorem writeAt_empty (key : String) (below : Path) (value : Value) :
    writeAt [] (key :: below) value = [(key, value.nested below)] := by
  induction below generalizing key with
  | nil => rfl
  | cons next below ih =>
    show put [] key (.object (writeAt [] (next :: below) value)) = _
    rw [ih]
    rfl

/-- A write where a path leads through something that is no object is a write of new objects
there. -/
theorem writeAt_append (h : (fields.at? path).bind Value.object? = none) (hne : path ≠ [])
    (key : String) (below : Path) (value : Value) :
    fields.writeAt (path ++ key :: below) value =
      fields.writeAt path (.object [(key, value.nested below)]) := by
  induction path generalizing fields with
  | nil => exact absurd rfl hne
  | cons first rest ih =>
    cases rest with
    | nil =>
      rw [at?_singleton] at h
      rw [List.singleton_append, writeAt, writeAt, h, Option.getD_none, writeAt_empty]
    | cons next rest =>
      rw [at?_cons _ _ (List.cons_ne_nil _ _), ← at?_getD_object] at h
      have hlater := ih h (List.cons_ne_nil _ _)
      simp only [List.cons_append] at hlater ⊢
      rw [writeAt, hlater, writeAt]

/-! ## Reading -/

/-- **What is written is read.** Let a value be written at a path that is not empty. Then it is read
at this path, whatever was on the way before; and if another value is written at the path later, the
variables are what they would be if it had been the only one, with the same order. -/
theorem write_reads_back (vars : Object) {path : String} (hpath : path ≠ "") (value : Value) :
    (vars.write path value).read? path = .ok (some value) ∧
      ∀ later, (vars.write path value).write path later = vars.write path later := by
  have hwritten := isWritten_writeAt vars (Path.ofText_ne_nil path) value
  exact ⟨read?_of_at? hpath hwritten.found, writeAt_writeAt vars (Path.ofText path) value⟩

/-- A path that leads through a list, an empty segment and white space around it. -/
theorem write_reads_back_list :
    let vars : Object := [("cart", .list [.int 1, .int 2]), ("name", .text "Ann")]
    (vars.write " cart..0 " (.text "pear")).read? " cart..0 " = .ok (some (.text "pear")) ∧
      (vars.write " cart..0 " (.text "pear")).write " cart..0 " (.int 3) =
        vars.write " cart..0 " (.int 3) := by
  intro vars
  have hpath : " cart..0 " ≠ "" := by decide
  obtain ⟨hread, hlater⟩ := vars.write_reads_back hpath (.text "pear")
  exact ⟨hread, hlater (.int 3)⟩

/-- **A write touches its path only.** Let a value be written at a path on the way to which there
is no list. Then reading gives at every path that is apart from it what it gave before: a value,
nothing, or a failure. -/
theorem write_spares_apart (vars : Object) {path other : String}
    (hapart : (Path.ofText path).Apart (Path.ofText other))
    (hlists : ∀ front rest, rest ≠ [] → front ++ rest = Path.ofText path →
      ∀ items, vars.at? front ≠ some (.list items)) (value : Value) :
    (vars.write path value).read? other = vars.read? other := by
  have hwritten := isWritten_writeAt vars (Path.ofText_ne_nil path) value
  have hwhole : (vars.write path value).field? (trim other) = vars.field? (trim other) := by
    obtain ⟨rest, hpath, -⟩ := Path.ofText_spec path
    refine hwritten.kept [trim other] ?_
    rw [hpath]
    exact .of_head_ne hapart.trim_ne.symm
  rw [read?, read?, write, hwritten.walk_of_apart hlists hapart, ← write, hwhole]

/-- A write at a path through a variable that holds an object to a field that is not there. Another
field, a variable whose name looks like a path, and a path that cannot be followed read as
before. -/
theorem write_spares_apart_order :
    let vars : Object := [("order", .object [("id", .int 7)]), ("names", .list [.text "Ann"]),
      ("order.sum", .text "12")]
    let after := vars.write "order.total.net" (.int 10)
    after.read? "order.id" = .ok (some (.int 7)) ∧
      after.read? "order.sum" = .ok (some (.text "12")) ∧
      after.read? "names.²" = .error (.notDecimal "²") := by
  intro vars after
  have hpath : Path.ofText "order.total.net" = ["order", "total", "net"] := by cbv
  have hlists : ∀ front rest, rest ≠ [] → front ++ rest = Path.ofText "order.total.net" →
      ∀ items, vars.at? front ≠ some (.list items) := by
    intro front rest hrest heq items hat
    rw [hpath] at heq
    rcases front with _ | ⟨first, _ | ⟨second, _ | ⟨third, front⟩⟩⟩
    · cases hat
    · obtain ⟨rfl, -⟩ := List.cons.inj heq
      cases hat
    · obtain ⟨rfl, hlater⟩ := List.cons.inj heq
      obtain ⟨rfl, -⟩ := List.cons.inj hlater
      cases hat
    · simp [hrest] at heq
  have happly : ∀ other, (Path.ofText "order.total.net").Apart (Path.ofText other) →
      after.read? other = vars.read? other :=
    fun other hapart => vars.write_spares_apart hapart hlists (.int 10)
  have hid : Path.ofText "order.id" = ["order", "id"] := by cbv
  have hsum : Path.ofText "order.sum" = ["order", "sum"] := by cbv
  have hnames : Path.ofText "names.²" = ["names", "²"] := by cbv
  refine ⟨(happly _ ?_).trans (by cbv), (happly _ ?_).trans (by cbv), (happly _ ?_).trans (by cbv)⟩
  · rw [hpath, hid, Path.Apart]
    decide
  · rw [hpath, hsum, Path.Apart]
    decide
  · rw [hpath, hnames, Path.Apart]
    decide

/-! ## Lists on the way -/

/-- **A write through a list loses the list.** Let a path lead through objects to a list, and let a
value be written at a path that leads on from it, by whatever segment. Then an object is read where
the list was, in which there is nothing but what was written; of the other items nothing is read.
Paths that are apart from the list read as before. -/
theorem write_loses_list (vars : Object) {list path : String} {items : List Value} {key : String}
    {below : Path} (hne : list ≠ "") (hlist : vars.at? (Path.ofText list) = some (.list items))
    (hpath : Path.ofText path = Path.ofText list ++ key :: below) (value : Value) :
    (vars.write path value).read? list = .ok (some (.object [(key, value.nested below)])) ∧
      (∀ other segment, Path.ofText other = Path.ofText list ++ [segment] → segment ≠ key →
        (vars.write path value).read? other = .ok (vars.field? (trim other))) ∧
      ∀ other, (Path.ofText list).Apart (Path.ofText other) →
        (vars.write path value).read? other = vars.read? other := by
  have hlistNe := Path.ofText_ne_nil list
  have hwrite : vars.write path value =
      vars.write list (.object [(key, value.nested below)]) := by
    rw [write, hpath, writeAt_append (by rw [hlist]; rfl) hlistNe, write]
  have hwritten : IsWritten vars (vars.write list (.object [(key, value.nested below)]))
      (Path.ofText list) (.object [(key, value.nested below)]) :=
    isWritten_writeAt vars hlistNe _
  rw [hwrite]
  refine ⟨read?_of_at? hne hwritten.found, fun other segment hother hsegment => ?_,
    fun other hapart => vars.write_spares_apart hapart (fun front rest hrest heq found hat => ?_) _⟩
  · have hotherNe : other ≠ "" := by
      rintro rfl
      rw [show Path.ofText "" = [""] by cbv] at hother
      simpa [hlistNe] using congrArg List.length hother
    have htrim : firstSegment list ≠ trim other := by
      intro heq
      obtain ⟨-, -, hdots, -⟩ := Path.ofText_spec list
      rw [Path.ofText_of_no_dot (heq ▸ hdots)] at hother
      simpa [hlistNe] using congrArg List.length hother
    have hwhole := hwritten.kept [trim other] ?_
    · -- the object at the list has no such field, so the whole path is tried as a variable
      rw [at?_singleton, at?_singleton] at hwhole
      rw [read?, if_neg (by simpa using hotherNe), hother,
        Value.walk_append (walk_of_at? hwritten.found), hwhole]
      simp [Value.walk, field?, hsegment.symm]
      rfl
    · obtain ⟨rest, hsegments, -⟩ := Path.ofText_spec list
      rw [hsegments]
      exact .of_head_ne htrim
  · -- before a list that a path leads to through objects there is no list
    have hfront : front ≠ [] := by
      rintro rfl
      cases hat
    rw [← heq, at?_append vars hfront hrest, hat] at hlist
    cases hlist

/-- A write below an item of a list in an object, beside a variable whose name looks like a path. -/
theorem write_loses_list_cart :
    let vars : Object := [("cart", .object [("items", .list [.int 1, .int 2]), ("sum", .int 3)]),
      ("cart.items.1", .text "kept")]
    let after := vars.write "cart.items.0.count" (.int 5)
    after.read? "cart.items" =
        .ok (some (.object [("0", .object [("count", .int 5)])])) ∧
      after.read? "cart.items.1" = .ok (some (.text "kept")) ∧
      after.read? "cart.items.2" = .ok none ∧
      after.read? "cart.sum" = .ok (some (.int 3)) := by
  intro vars after
  have hitems : Path.ofText "cart.items" = ["cart", "items"] := by cbv
  have hsum : Path.ofText "cart.sum" = ["cart", "sum"] := by cbv
  have hcount : Path.ofText "cart.items.0.count" =
      Path.ofText "cart.items" ++ "0" :: ["count"] := by cbv
  have hlist : vars.at? (Path.ofText "cart.items") = some (.list [.int 1, .int 2]) := by cbv
  obtain ⟨hread, hlost, hkept⟩ := vars.write_loses_list (by decide) hlist hcount (.int 5)
  refine ⟨hread, (hlost _ "1" (by cbv) (by decide)).trans (by cbv),
    (hlost _ "2" (by cbv) (by decide)).trans (by cbv), (hkept _ ?_).trans (by cbv)⟩
  rw [hitems, hsum, Path.Apart]
  decide

/-- **A list of which an item was written is no list any more**, and its other item is lost. -/
theorem list_lost_by_write :
    let vars : Object := [("names", .list [.text "Ann", .text "Bo"])]
    let after := vars.write "names.0" (.text "Cy")
    vars.at? (Path.ofText "names") = some (.list [.text "Ann", .text "Bo"]) ∧
      vars.read? "names.1" = .ok (some (.text "Bo")) ∧
      after.read? "names" = .ok (some (.object [("0", .text "Cy")])) ∧
      after.read? "names.1" = .ok none := by
  cbv

end Object

end ChatFlow

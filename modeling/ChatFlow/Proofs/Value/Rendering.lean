import Mathlib
import ChatFlow.Proofs.Value.Templates

/-!
# What is found in a rendered value

Rendering a value puts the variables into every text in it and leaves the rest as it is. So it does
not matter whether a value is rendered first and then followed along a path, or the other way round
(`Value.walk_render`): a path leads to something in both or in neither, and where it cannot be
followed it cannot in both. What is left of a value when its texts are taken out (`Value.outline`)
is the same before and after.

Main statement: `Value.resolve_render`.
-/

namespace ChatFlow

/-! ## Texts, and what is left without them -/

mutual

/-- The texts in a value. The names of fields are none of them. -/
def Value.texts : Value → List String
  | .text s => [s]
  | .list items => itemTexts items
  | .object fields => fieldTexts fields
  | _ => []

/-- The texts in the items of a list. -/
def itemTexts : List Value → List String
  | [] => []
  | item :: rest => item.texts ++ itemTexts rest

/-- The texts in the values of the fields of an object. -/
def fieldTexts : List (String × Value) → List String
  | [] => []
  | (_, value) :: rest => value.texts ++ fieldTexts rest

end

mutual

/-- A value with an empty text in the place of every text: its lists and objects, the names and the
order of its fields, and everything in it that is no text. -/
def Value.outline : Value → Value
  | .text _ => .text ""
  | .list items => .list (itemOutlines items)
  | .object fields => .object (fieldOutlines fields)
  | value => value

/-- The items of a list without their texts. -/
def itemOutlines : List Value → List Value
  | [] => []
  | item :: rest => item.outline :: itemOutlines rest

/-- The fields of an object without the texts in their values. -/
def fieldOutlines : List (String × Value) → List (String × Value)
  | [] => []
  | (name, value) :: rest => (name, value.outline) :: fieldOutlines rest

end

section

variable {ε α β : Type}

/-- Two computations in a row succeed if both do. -/
theorem bind_eq_ok_iff {x : Except ε α} {f : α → Except ε β} {b : β} :
    x >>= f = .ok b ↔ ∃ a, x = .ok a ∧ f a = .ok b := by
  cases x with
  | error e =>
    constructor
    · intro h; cases h
    · rintro ⟨a, ha, -⟩; cases ha
  | ok a => exact ⟨fun h => ⟨a, rfl, h⟩, fun ⟨_, ha, h⟩ => by cases ha; exact h⟩

/-- Two computations in a row fail if one of them does. -/
theorem bind_eq_error_iff {x : Except ε α} {f : α → Except ε β} {e : ε} :
    x >>= f = .error e ↔ x = .error e ∨ ∃ a, x = .ok a ∧ f a = .error e := by
  cases x with
  | error e' =>
    constructor
    · intro h; cases h; exact .inl rfl
    · rintro (h | ⟨a, ha, -⟩)
      · cases h; rfl
      · cases ha
  | ok a =>
    constructor
    · intro h; exact .inr ⟨a, rfl, h⟩
    · rintro (h | ⟨a', ha, h⟩)
      · cases h
      · cases ha; exact h

/-- A computation with something done to its result succeeds if it does. -/
theorem map_eq_ok_iff {x : Except ε α} {f : α → β} {b : β} :
    f <$> x = .ok b ↔ ∃ a, x = .ok a ∧ f a = b := by
  cases x with
  | error e =>
    constructor
    · intro h; cases h
    · rintro ⟨a, ha, -⟩; cases ha
  | ok a =>
    exact ⟨fun h => ⟨a, rfl, Except.ok.inj h⟩, fun ⟨_, ha, h⟩ => by cases ha; exact congrArg _ h⟩

end

section

variable {vars : Object}

/-! ## Values that render -/

mutual

/-- **A value renders** if every text in it does. -/
theorem Value.render_ok_of_texts : (value : Value) →
    (∀ s ∈ value.texts, ∃ text, renderTemplate vars s = .ok text) →
    ∃ rendered, value.render vars = .ok rendered
  | .text s, h => by
    obtain ⟨text, htext⟩ := h s (List.mem_singleton_self s)
    exact ⟨.text text, by rw [Value.render, htext]; rfl⟩
  | .list items, h => by
    obtain ⟨rendered, hrendered⟩ := renderItems_ok_of_texts items h
    exact ⟨.list rendered, by rw [Value.render, hrendered]; rfl⟩
  | .object fields, h => by
    obtain ⟨rendered, hrendered⟩ := renderFields_ok_of_texts fields h
    exact ⟨.object rendered, by rw [Value.render, hrendered]; rfl⟩
  | .null, _ | .bool _, _ | .int _, _ | .float _, _ => ⟨_, rfl⟩

theorem renderItems_ok_of_texts : (items : List Value) →
    (∀ s ∈ itemTexts items, ∃ text, renderTemplate vars s = .ok text) →
    ∃ rendered, renderItems vars items = .ok rendered
  | [], _ => ⟨[], rfl⟩
  | item :: rest, h => by
    obtain ⟨first, hfirst⟩ := item.render_ok_of_texts fun s hs => h s (List.mem_append_left _ hs)
    obtain ⟨later, hlater⟩ :=
      renderItems_ok_of_texts rest fun s hs => h s (List.mem_append_right _ hs)
    exact ⟨first :: later, by rw [renderItems, hfirst, hlater]; rfl⟩

theorem renderFields_ok_of_texts : (fields : List (String × Value)) →
    (∀ s ∈ fieldTexts fields, ∃ text, renderTemplate vars s = .ok text) →
    ∃ rendered, renderFields vars fields = .ok rendered
  | [], _ => ⟨[], rfl⟩
  | (name, value) :: rest, h => by
    obtain ⟨first, hfirst⟩ := value.render_ok_of_texts fun s hs => h s (List.mem_append_left _ hs)
    obtain ⟨later, hlater⟩ :=
      renderFields_ok_of_texts rest fun s hs => h s (List.mem_append_right _ hs)
    exact ⟨(name, first) :: later, by rw [renderFields, hfirst, hlater]; rfl⟩

end

/-! ## The parts of a rendered value -/

variable {items items' : List Value} {fields fields' : List (String × Value)}
  {value rendered : Value}

/-- A list that has an item first renders to a list that has the rendered item first. -/
theorem renderItems_cons_ok {item : Value}
    (h : renderItems vars (item :: items) = .ok items') :
    ∃ first later, item.render vars = .ok first ∧ renderItems vars items = .ok later ∧
      items' = first :: later := by
  simp only [renderItems, bind_eq_ok_iff] at h
  obtain ⟨first, hfirst, later, hlater, hitems⟩ := h
  cases hitems
  exact ⟨first, later, hfirst, hlater, rfl⟩

/-- An object that has a field first renders to one that has the field first, with the rendered
value. -/
theorem renderFields_cons_ok {name : String}
    (h : renderFields vars ((name, value) :: fields) = .ok fields') :
    ∃ first later, value.render vars = .ok first ∧ renderFields vars fields = .ok later ∧
      fields' = (name, first) :: later := by
  simp only [renderFields, bind_eq_ok_iff] at h
  obtain ⟨first, hfirst, later, hlater, hfields⟩ := h
  cases hfields
  exact ⟨first, later, hfirst, hlater, rfl⟩

/-- Renders what was found, if something was. -/
def renderFound (vars : Object) : Option Value → Except Fault (Option Value)
  | some value => some <$> value.render vars
  | none => .ok none

/-- If what was found renders to something, then something was found, and otherwise nothing. -/
theorem renderFound_ok {found? found?' : Option Value}
    (h : renderFound vars found? = .ok found?') :
    (found? = none ∧ found?' = none) ∨
      ∃ found found', found? = some found ∧ found?' = some found' ∧
        found.render vars = .ok found' := by
  cases found? with
  | none => cases h; exact .inl ⟨rfl, rfl⟩
  | some found =>
    obtain ⟨found', hfound, rfl⟩ := map_eq_ok_iff.1 h
    exact .inr ⟨found, found', rfl, rfl, hfound⟩

theorem renderFound_some (h : value.render vars = .ok rendered) :
    renderFound vars (some value) = .ok (some rendered) :=
  map_eq_ok_iff.2 ⟨rendered, h, rfl⟩

/-- The items of a rendered list are the rendered items of the list. -/
theorem getElem?_renderItems (h : renderItems vars items = .ok items') (index : Nat) :
    renderFound vars items[index]? = .ok items'[index]? := by
  induction items generalizing items' index with
  | nil => cases h; rfl
  | cons item rest ih =>
    obtain ⟨first, later, hfirst, hlater, rfl⟩ := renderItems_cons_ok h
    cases index with
    | zero => exact renderFound_some hfirst
    | succ index => simpa using ih hlater index

/-- The fields of a rendered object are the rendered fields of the object. -/
theorem field?_renderFields (h : renderFields vars fields = .ok fields') (name : String) :
    renderFound vars (Object.field? fields name) = .ok (Object.field? fields' name) := by
  induction fields generalizing fields' with
  | nil => cases h; rfl
  | cons field rest ih =>
    obtain ⟨key, value⟩ := field
    obtain ⟨first, later, hfirst, hlater, rfl⟩ := renderFields_cons_ok h
    by_cases hkey : key = name
    · simpa [Object.field?, hkey] using renderFound_some hfirst
    · simpa [Object.field?, hkey] using ih hlater

/-! ## Following a path -/

/-- **Rendering and following a path commute.** -/
theorem Value.walk_render (h : value.render vars = .ok rendered) (path : Path) :
    rendered.walk path = value.walk path >>= renderFound vars := by
  induction path generalizing value rendered with
  | nil =>
    rw [walk_nil, walk_nil]
    exact (renderFound_some h).symm
  | cons segment rest ih =>
    cases value with
    | object fields =>
      obtain ⟨fields', hfields, rfl⟩ := map_eq_ok_iff.1 h
      rw [walk, walk]
      rcases renderFound_ok (field?_renderFields hfields segment) with
        ⟨hnone, hnone'⟩ | ⟨found, found', hsome, hsome', hfound⟩
      · rw [hnone, hnone']; rfl
      · rw [hsome, hsome']; exact ih hfound
    | list items =>
      obtain ⟨items', hitems, rfl⟩ := map_eq_ok_iff.1 h
      rw [walk, walk]
      by_cases hdigits : isDigits segment = true
      · rw [if_pos hdigits, if_pos hdigits]
        cases decimalNat? segment with
        | none => rfl
        | some index =>
          rcases renderFound_ok (getElem?_renderItems hitems index) with
            ⟨hnone, hnone'⟩ | ⟨found, found', hsome, hsome', hfound⟩
          · simp only [hnone, hnone']; rfl
          · simp only [hsome, hsome']; exact ih hfound
      · rw [if_neg hdigits, if_neg hdigits]; rfl
    | text s =>
      obtain ⟨text, -, rfl⟩ := map_eq_ok_iff.1 h
      rfl
    | null | bool | int | float => cases h; rfl

/-! ## What is left as it is -/

mutual

/-- Rendering changes texts only. -/
theorem Value.outline_render : (value : Value) → {rendered : Value} →
    value.render vars = .ok rendered → rendered.outline = value.outline
  | .text s, _, h => by
    obtain ⟨text, -, rfl⟩ := map_eq_ok_iff.1 h
    rfl
  | .list items, _, h => by
    obtain ⟨items', hitems, rfl⟩ := map_eq_ok_iff.1 h
    rw [Value.outline, Value.outline, itemOutlines_renderItems items hitems]
  | .object fields, _, h => by
    obtain ⟨fields', hfields, rfl⟩ := map_eq_ok_iff.1 h
    rw [Value.outline, Value.outline, fieldOutlines_renderFields fields hfields]
  | .null, _, h | .bool _, _, h | .int _, _, h | .float _, _, h => by cases h; rfl

theorem itemOutlines_renderItems : (items : List Value) → {items' : List Value} →
    renderItems vars items = .ok items' → itemOutlines items' = itemOutlines items
  | [], _, h => by cases h; rfl
  | item :: rest, _, h => by
    obtain ⟨first, later, hfirst, hlater, rfl⟩ := renderItems_cons_ok h
    rw [itemOutlines, itemOutlines, item.outline_render hfirst,
      itemOutlines_renderItems rest hlater]

theorem fieldOutlines_renderFields : (fields : List (String × Value)) →
    {fields' : List (String × Value)} → renderFields vars fields = .ok fields' →
    fieldOutlines fields' = fieldOutlines fields
  | [], _, h => by cases h; rfl
  | (name, value) :: rest, _, h => by
    obtain ⟨first, later, hfirst, hlater, rfl⟩ := renderFields_cons_ok h
    rw [fieldOutlines, fieldOutlines, value.outline_render hfirst,
      fieldOutlines_renderFields rest hlater]

end

/-- **Rendering a value commutes with reading it.** Let every text in a value render. Then the value
does, and reading a path in what it renders to gives the same as reading it in the value and
rendering what is found there: a path that leads nowhere in the one leads nowhere in the other, and
one that cannot be followed in the one cannot in the other, for the same reason. The lists and
objects, the names and order of fields, and everything that is no text are as in the value. -/
theorem Value.resolve_render (value : Value)
    (h : ∀ s ∈ value.texts, ∃ text, renderTemplate vars s = .ok text) :
    ∃ rendered, value.render vars = .ok rendered ∧ rendered.outline = value.outline ∧
      ∀ path, rendered.resolve path = value.resolve path >>= renderFound vars := by
  obtain ⟨rendered, hrendered⟩ := value.render_ok_of_texts h
  refine ⟨rendered, hrendered, value.outline_render hrendered, fun path => ?_⟩
  unfold resolve
  split
  · exact (renderFound_some hrendered).symm
  · exact walk_render hrendered _

end

/-- An order with a list and texts in it. -/
def templatedOrder : Value :=
  .object [("items", .list [.text "tea for \x7b\x7b name \x7d\x7d", .int 2]), ("note", .text "-")]

/-- The first item of the order is found rendered, and there is no third. -/
theorem Value.resolve_render_order :
    (∀ s ∈ templatedOrder.texts,
      ∃ text, renderTemplate [("name", .text "Ann")] s = .ok text) ∧
    ∃ rendered, templatedOrder.render [("name", .text "Ann")] = .ok rendered ∧
      rendered.resolve "items.0" = .ok (some (.text "tea for Ann")) ∧
      rendered.resolve "items.2" = .ok none ∧
      rendered.resolve "items.²" = .error (.notDecimal "²") := by
  have htexts : ∀ s ∈ templatedOrder.texts,
      ∃ text, renderTemplate [("name", .text "Ann")] s = .ok text := by
    have hboth : templatedOrder.texts = ["tea for \x7b\x7b name \x7d\x7d", "-"] := rfl
    intro s hs
    rw [hboth] at hs
    rcases List.mem_cons.1 hs with rfl | hs
    · exact ⟨"tea for Ann", by cbv⟩
    · cases List.mem_singleton.1 hs
      exact ⟨"-", by cbv⟩
  obtain ⟨rendered, hrendered, -, hreads⟩ := templatedOrder.resolve_render htexts
  refine ⟨htexts, rendered, hrendered, ?_, ?_, ?_⟩
  · rw [hreads]; cbv
  · rw [hreads]; cbv
  · rw [hreads]; cbv

end ChatFlow

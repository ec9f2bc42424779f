import ChatFlow.Config.NodeType
import ChatFlow.Config.Unknown
import ChatFlow.Env

/-!
# What reading a configuration passes over

`unknownPlaces` are the places of the keys that `unknownKeys` reports. They are exactly what reading
a configuration passes over: without the entries at these places there is no unknown key left, and
the configuration reads as before, to the same fields or with the same problems.

Both follow from what a place has to look like for the report to name it (`PassedOver`): its keys
but the last name fields that hold records, alone or in a list, and its last key names no field.
Taking such entries out of a value changes nothing for its shape (`Shape.check_without`), if no two
fields of a record go by one name (`Shape.isDistinct`).

Main statement: `NodeType.readConfig_without_unknown`.
-/

namespace ChatFlow

/-! ## Places of unknown keys -/

namespace Place

/-- How a report writes the steps after a key: `.typo` and `[0]`. -/
def suffix : Place → String
  | [] => ""
  | .field name :: rest => "." ++ name ++ suffix rest
  | .item index :: rest => "[" ++ decimalText index ++ "]" ++ suffix rest

/-- How a report writes a place: `conditions[0].typo`. -/
def text : Place → String
  | .field name :: rest => name ++ suffix rest
  | place => suffix place

end Place

mutual

/-- The places of the unknown keys of an object with known fields. -/
def unknownPlaces (fields : List ShapeField) : Value → List Place
  | .object entries => unknownEntryPlaces fields entries
  | _ => []

/-- The places of the unknown keys among the entries of an object. -/
def unknownEntryPlaces (fields : List ShapeField) : List (String × Value) → List Place
  | [] => []
  | (key, value) :: rest =>
    (match fields.find? (·.isNamed key) with
    | none => [[.field key]]
    | some field =>
      match field.shape.records? with
      | none => []
      | some inner => (unknownPlacesWithin inner value).map (.field key :: ·)) ++
        unknownEntryPlaces fields rest

/-- The places of the unknown keys within the value of a field. -/
def unknownPlacesWithin (fields : List ShapeField) : Value → List Place
  | .list items => unknownItemPlaces fields 0 items
  | .object entries => unknownEntryPlaces fields entries
  | _ => []

/-- The places of the unknown keys of the items of a list. -/
def unknownItemPlaces (fields : List ShapeField) : (index : Nat) → List Value → List Place
  | _, [] => []
  | index, item :: rest =>
    (unknownPlaces fields item).map (.item index :: ·) ++ unknownItemPlaces fields (index + 1) rest

end

/-! ## What such a place looks like -/

/-- Whether reading an object with known fields passes over a place in it. -/
inductive PassedOver : List ShapeField → Place → Prop
  | key {fields : List ShapeField} {key : String} :
      fields.find? (·.isNamed key) = none → PassedOver fields [.field key]
  | field {fields inner : List ShapeField} {field : ShapeField} {key : String} {place : Place} :
      fields.find? (·.isNamed key) = some field → field.shape.records? = some inner →
      PassedOver inner place → PassedOver fields (.field key :: place)
  | item {fields inner : List ShapeField} {field : ShapeField} {key : String} {index : Nat}
      {place : Place} :
      fields.find? (·.isNamed key) = some field → field.shape.records? = some inner →
      PassedOver inner place → PassedOver fields (.field key :: .item index :: place)

/-- Whether reading an object with known fields, or a list of such objects, passes over a place. -/
def PassedWithin (fields : List ShapeField) (place : Place) : Prop :=
  PassedOver fields place ∨ ∃ index rest, place = .item index :: rest ∧ PassedOver fields rest

/-- Whether reading a value of a shape passes over a place in it. -/
def Shape.PassesOver (shape : Shape) (place : Place) : Prop :=
  ∃ fields, shape.records? = some fields ∧ PassedWithin fields place

namespace PassedOver

variable {fields : List ShapeField} {field : ShapeField} {key : String} {place : Place}

/-- Such a place begins with a key. -/
theorem suffix_eq (h : PassedOver fields place) : place.suffix = "." ++ place.text := by
  cases h <;> simp [Place.suffix, Place.text, String.append_assoc]

/-- The last key names no field. -/
theorem find?_eq_none (h : PassedOver fields [.field key]) :
    fields.find? (·.isNamed key) = none := by
  cases h with
  | key h => exact h
  | field _ _ h => cases h

/-- The keys before it name fields whose shapes pass over what follows. -/
theorem passesOver (h : PassedOver fields (.field key :: place))
    (hfield : fields.find? (·.isNamed key) = some field) : field.shape.PassesOver place := by
  cases h with
  | key hnone => cases hnone.symm.trans hfield
  | field hfield' hinner h =>
    cases hfield.symm.trans hfield'
    exact ⟨_, hinner, .inl h⟩
  | item hfield' hinner h =>
    cases hfield.symm.trans hfield'
    exact ⟨_, hinner, .inr ⟨_, _, rfl, h⟩⟩

end PassedOver

namespace PassedWithin

variable {fields : List ShapeField} {place : Place}

theorem of_field {key : String} (h : PassedWithin fields (.field key :: place)) :
    PassedOver fields (.field key :: place) := by
  rcases h with h | ⟨index, rest, heq, -⟩
  · exact h
  · cases heq

theorem of_item {index : Nat} (h : PassedWithin fields (.item index :: place)) :
    PassedOver fields place := by
  rcases h with h | ⟨index, rest, heq, h⟩
  · cases h
  · cases heq
    exact h

end PassedWithin

mutual

/-- **The report names only places that reading passes over.** -/
theorem passedOver_of_mem_unknownPlaces {fields : List ShapeField} {place : Place} :
    (value : Value) → place ∈ unknownPlaces fields value → PassedOver fields place
  | .object entries, h => passedOver_of_mem_unknownEntryPlaces entries h
  | .null, h | .bool _, h | .int _, h | .float _, h | .text _, h | .list _, h => nomatch h

theorem passedOver_of_mem_unknownEntryPlaces {fields : List ShapeField} {place : Place} :
    (entries : List (String × Value)) → place ∈ unknownEntryPlaces fields entries →
    PassedOver fields place
  | [], h => nomatch h
  | (key, value) :: rest, h => by
    rw [unknownEntryPlaces, List.mem_append] at h
    rcases h with h | h
    · split at h
      · next hnone =>
        cases List.mem_singleton.1 h
        exact .key hnone
      · next field hfield =>
        split at h
        · cases h
        · next inner hinner =>
          obtain ⟨place, hplace, rfl⟩ := List.mem_map.1 h
          rcases passedWithin_of_mem_unknownPlacesWithin value hplace with
            hover | ⟨index, rest, rfl, hover⟩
          · exact .field hfield hinner hover
          · exact .item hfield hinner hover
    · exact passedOver_of_mem_unknownEntryPlaces rest h

theorem passedWithin_of_mem_unknownPlacesWithin {fields : List ShapeField} {place : Place} :
    (value : Value) → place ∈ unknownPlacesWithin fields value → PassedWithin fields place
  | .list items, h => .inr (passedOver_of_mem_unknownItemPlaces 0 items h)
  | .object entries, h => .inl (passedOver_of_mem_unknownEntryPlaces entries h)
  | .null, h | .bool _, h | .int _, h | .float _, h | .text _, h => nomatch h

theorem passedOver_of_mem_unknownItemPlaces {fields : List ShapeField} {place : Place} :
    (index : Nat) → (items : List Value) → place ∈ unknownItemPlaces fields index items →
    ∃ index rest, place = .item index :: rest ∧ PassedOver fields rest
  | _, [], h => nomatch h
  | index, item :: rest, h => by
    rw [unknownItemPlaces, List.mem_append] at h
    rcases h with h | h
    · obtain ⟨place, hplace, rfl⟩ := List.mem_map.1 h
      exact ⟨index, place, rfl, passedOver_of_mem_unknownPlaces item hplace⟩
    · exact passedOver_of_mem_unknownItemPlaces (index + 1) rest h

end

/-! ## The report -/

mutual

/-- **The report writes the places** of the unknown keys. -/
theorem unknownKeys_eq (fields : List ShapeField) (label : String) :
    (value : Value) →
    unknownKeys fields label value = (unknownPlaces fields value).map (label ++ ·.text)
  | .object entries => unknownEntries_eq fields label entries
  | .null | .bool _ | .int _ | .float _ | .text _ | .list _ => rfl

theorem unknownEntries_eq (fields : List ShapeField) (label : String) :
    (entries : List (String × Value)) →
    unknownEntries fields label entries =
      (unknownEntryPlaces fields entries).map (label ++ ·.text)
  | [] => rfl
  | (key, value) :: rest => by
    rw [unknownEntries, unknownEntryPlaces, List.map_append, unknownEntries_eq fields label rest]
    refine congrArg (· ++ _) ?_
    cases fields.find? (·.isNamed key) with
    | none => simp [Place.text, Place.suffix]
    | some field =>
      dsimp only
      cases field.shape.records? with
      | none => rfl
      | some inner =>
        dsimp only
        rw [unknownWithin_eq, List.map_map]
        simp [Function.comp_def, Place.text, String.append_assoc]

theorem unknownWithin_eq (fields : List ShapeField) (label : String) :
    (value : Value) →
    unknownWithin fields label value = (unknownPlacesWithin fields value).map (label ++ ·.suffix)
  | .list items => unknownItems_eq fields label 0 items
  | .object entries => by
    rw [unknownWithin, unknownPlacesWithin, unknownEntries_eq]
    refine List.map_congr_left fun place hplace => ?_
    rw [(passedOver_of_mem_unknownEntryPlaces entries hplace).suffix_eq, String.append_assoc]
  | .null | .bool _ | .int _ | .float _ | .text _ => rfl

theorem unknownItems_eq (fields : List ShapeField) (label : String) (index : Nat) :
    (items : List Value) →
    unknownItems fields label index items =
      (unknownItemPlaces fields index items).map (label ++ ·.suffix)
  | [] => rfl
  | item :: rest => by
    rw [unknownItems, unknownItemPlaces, List.map_append, unknownItems_eq fields label _ rest,
      unknownKeys_eq, List.map_map]
    refine congrArg (· ++ _) (List.map_congr_left fun place hplace => ?_)
    have hdot : "]." = "]" ++ "." := rfl
    rw [Function.comp_apply, Place.suffix,
      (passedOver_of_mem_unknownPlaces item hplace).suffix_eq, hdot]
    simp only [String.append_assoc]

end

/-! ## Taking entries out -/

mutual

/-- A value without the entries at some places. -/
def Value.without (removed : Place → Bool) : Value → Value
  | .list items => .list (itemsWithout removed 0 items)
  | .object entries => .object (entriesWithout removed entries)
  | value => value

/-- The entries of an object without those at some places. -/
def entriesWithout (removed : Place → Bool) : List (String × Value) → List (String × Value)
  | [] => []
  | (key, value) :: rest =>
    if removed [.field key] then entriesWithout removed rest
    else
      (key, value.without fun place => removed (.field key :: place)) :: entriesWithout removed rest

/-- The items of a list without the entries at some places. -/
def itemsWithout (removed : Place → Bool) : (index : Nat) → List Value → List Value
  | _, [] => []
  | index, item :: rest =>
    item.without (fun place => removed (.item index :: place)) ::
      itemsWithout removed (index + 1) rest

end

mutual

/-- A value from which nothing is taken is as it was. -/
theorem Value.without_of_none {removed : Place → Bool} (h : ∀ place, removed place = false) :
    (value : Value) → value.without removed = value
  | .list items => congrArg Value.list (itemsWithout_of_none h 0 items)
  | .object entries => congrArg Value.object (entriesWithout_of_none h entries)
  | .null | .bool _ | .int _ | .float _ | .text _ => rfl

theorem entriesWithout_of_none {removed : Place → Bool} (h : ∀ place, removed place = false) :
    (entries : List (String × Value)) → entriesWithout removed entries = entries
  | [] => rfl
  | (key, value) :: rest => by
    have hvalue := value.without_of_none fun place => h (.field key :: place)
    rw [entriesWithout, if_neg (by simp [h]), hvalue, entriesWithout_of_none h rest]

theorem itemsWithout_of_none {removed : Place → Bool} (h : ∀ place, removed place = false)
    (index : Nat) : (items : List Value) → itemsWithout removed index items = items
  | [] => rfl
  | item :: rest => by
    have hitem := item.without_of_none fun place => h (.item index :: place)
    rw [itemsWithout, hitem, itemsWithout_of_none h (index + 1) rest]

end

section

variable {removed : Place → Bool} {entries : Object}

/-- A field that stays is found, without what is taken out of its value. -/
theorem field?_entriesWithout {key : String} (h : removed [.field key] = false) :
    Object.field? (entriesWithout removed entries) key =
      (Object.field? entries key).map (·.without fun place => removed (.field key :: place)) := by
  induction entries with
  | nil => rfl
  | cons entry rest ih =>
    obtain ⟨name, value⟩ := entry
    rw [entriesWithout]
    by_cases hname : name = key
    · subst hname
      simp [h, Object.field?]
    · split
      · simpa [Object.field?, hname] using ih
      · simpa [Object.field?, hname] using ih

/-- What is given for a field is given for it afterwards, under the same name. -/
theorem givenField?_entriesWithout (entries : Object) {name : String}
    (h : ∀ key, key = humpName name ∨ key = name → removed [.field key] = false) :
    givenField? (entriesWithout removed entries) name =
      (givenField? entries name).map fun given =>
        (given.1, given.2.without fun place => removed (.field given.1 :: place)) := by
  rw [givenField?, givenField?, field?_entriesWithout (h _ (.inl rfl)),
    field?_entriesWithout (h _ (.inr rfl))]
  cases Object.field? entries (humpName name) with
  | some value => rfl
  | none => cases Object.field? entries name <;> rfl

theorem key_of_givenField? {name key : String} {value : Value}
    (h : givenField? entries name = some (key, value)) : key = humpName name ∨ key = name := by
  rw [givenField?] at h
  split at h
  · cases h
    exact .inl rfl
  · obtain ⟨value, -, hgiven⟩ := Option.map_eq_some_iff.1 h
    cases hgiven
    exact .inr rfl

end

/-! ## Fields that go by different names -/

/-- Whether a field is given under none of the names of another. -/
def ShapeField.isApart (field other : ShapeField) : Bool :=
  !field.isNamed other.name && !field.isNamed (humpName other.name)

mutual

/-- Whether no two fields of a record in a shape go by one name. -/
def Shape.isDistinct : Shape → Bool
  | .list item => item.isDistinct
  | .optional shape => shape.isDistinct
  | .record _ fields => fieldsDistinct fields
  | _ => true

/-- Whether no two fields go by one name, also in the records that they hold. -/
def fieldsDistinct : List ShapeField → Bool
  | [] => true
  | field :: rest => rest.all field.isApart && field.isDistinct && fieldsDistinct rest

/-- Whether no two fields go by one name in the records that a field holds. -/
def ShapeField.isDistinct : ShapeField → Bool
  | .mk _ shape _ => shape.isDistinct

end

/-- A name of a field finds this field. -/
theorem find?_of_isNamed {fields : List ShapeField} {field : ShapeField} {key : String}
    (h : fieldsDistinct fields = true) (hfield : field ∈ fields) (hkey : field.isNamed key = true) :
    fields.find? (·.isNamed key) = some field := by
  induction fields with
  | nil => cases hfield
  | cons first rest ih =>
    rw [fieldsDistinct, Bool.and_eq_true, Bool.and_eq_true] at h
    obtain ⟨⟨hfirst, -⟩, hrest⟩ := h
    rcases List.mem_cons.1 hfield with rfl | hfield
    · exact List.find?_cons_of_pos hkey
    · have hapart := List.all_eq_true.1 hfirst field hfield
      rw [ShapeField.isApart, Bool.and_eq_true, Bool.not_eq_true', Bool.not_eq_true'] at hapart
      rw [List.find?_cons_of_neg, ih hrest hfield]
      rw [ShapeField.isNamed, Bool.or_eq_true, beq_iff_eq, beq_iff_eq] at hkey
      rcases hkey with rfl | rfl
      · rw [hapart.1]; exact Bool.false_ne_true
      · rw [hapart.2]; exact Bool.false_ne_true

/-! ## What is left without the unknown keys

Of the entries that are taken out, `hover` says that they are unknown, and the hypothesis on the
value that all unknown ones are among them. Both are handed down from a value to its parts.
-/

mutual

/-- **Without the places that the report names there is no unknown key left.** -/
theorem unknownPlaces_without {fields : List ShapeField} {removed : Place → Bool}
    (hover : ∀ key place, removed (.field key :: place) = true →
      PassedOver fields (.field key :: place)) :
    (value : Value) → (∀ place ∈ unknownPlaces fields value, removed place = true) →
    unknownPlaces fields (value.without removed) = []
  | .object entries, h => unknownEntryPlaces_without hover entries h
  | .null, _ | .bool _, _ | .int _, _ | .float _, _ | .text _, _ | .list _, _ => rfl

theorem unknownEntryPlaces_without {fields : List ShapeField} {removed : Place → Bool}
    (hover : ∀ key place, removed (.field key :: place) = true →
      PassedOver fields (.field key :: place)) :
    (entries : List (String × Value)) →
    (∀ place ∈ unknownEntryPlaces fields entries, removed place = true) →
    unknownEntryPlaces fields (entriesWithout removed entries) = []
  | [], _ => rfl
  | (key, value) :: rest, h => by
    rw [unknownEntryPlaces, List.forall_mem_append] at h
    obtain ⟨hfirst, hrest⟩ := h
    have hlater := unknownEntryPlaces_without hover rest hrest
    rw [entriesWithout]
    cases hfield : fields.find? (·.isNamed key) with
    | none =>
      rw [hfield] at hfirst
      rw [if_pos (hfirst _ (List.mem_singleton_self _)), hlater]
    | some field =>
      -- a key that names a field is not itself taken out
      have hkept : removed [.field key] ≠ true := fun hremoved => by
        cases (hover _ _ hremoved).find?_eq_none.symm.trans hfield
      rw [if_neg hkept, unknownEntryPlaces, hfield, hlater, List.append_nil]
      rw [hfield] at hfirst
      dsimp only at hfirst ⊢
      cases hinner : field.shape.records? with
      | none => rfl
      | some inner =>
        rw [hinner] at hfirst
        dsimp only at hfirst ⊢
        rw [unknownPlacesWithin_without ?_ value ?_, List.map_nil]
        · intro place hremoved
          obtain ⟨inner', hinner', hwithin⟩ := (hover _ _ hremoved).passesOver hfield
          cases hinner.symm.trans hinner'
          exact hwithin
        · exact fun place hplace => hfirst _ (List.mem_map_of_mem hplace)

theorem unknownPlacesWithin_without {fields : List ShapeField} {removed : Place → Bool}
    (hover : ∀ place, removed place = true → PassedWithin fields place) :
    (value : Value) → (∀ place ∈ unknownPlacesWithin fields value, removed place = true) →
    unknownPlacesWithin fields (value.without removed) = []
  | .list items, h => unknownItemPlaces_without hover 0 items h
  | .object entries, h =>
    unknownEntryPlaces_without (fun _ _ hremoved => (hover _ hremoved).of_field) entries h
  | .null, _ | .bool _, _ | .int _, _ | .float _, _ | .text _, _ => rfl

theorem unknownItemPlaces_without {fields : List ShapeField} {removed : Place → Bool}
    (hover : ∀ place, removed place = true → PassedWithin fields place) (index : Nat) :
    (items : List Value) →
    (∀ place ∈ unknownItemPlaces fields index items, removed place = true) →
    unknownItemPlaces fields index (itemsWithout removed index items) = []
  | [], _ => rfl
  | item :: rest, h => by
    rw [unknownItemPlaces, List.forall_mem_append] at h
    obtain ⟨hfirst, hrest⟩ := h
    rw [itemsWithout, unknownItemPlaces, unknownItemPlaces_without hover (index + 1) rest hrest,
      unknownPlaces_without ?_ item ?_]
    · rfl
    · exact fun _ _ hremoved => (hover _ hremoved).of_item
    · exact fun place hplace => hfirst _ (List.mem_map_of_mem hplace)

end

/-! ## Reading what is left -/

/-- A shape that holds no records passes over nothing. -/
theorem Shape.check_without_of_plain {shape : Shape} (hplain : shape.records? = none)
    {removed : Place → Bool} (h : ∀ place, removed place = true → shape.PassesOver place)
    (value : Value) : shape.check (value.without removed) = shape.check value := by
  rw [Value.without_of_none]
  intro place
  rw [Bool.eq_false_iff]
  intro hremoved
  obtain ⟨fields, hfields, -⟩ := h place hremoved
  cases hplain.symm.trans hfields

/-- Items are checked one by one. -/
theorem checkItems_itemsWithout {check : Value → Checked Value} {removed : Place → Bool}
    (h : ∀ index value,
      check (value.without fun place => removed (.item index :: place)) = check value)
    (index : Nat) (items : List Value) :
    checkItems check index (itemsWithout removed index items) = checkItems check index items := by
  induction items generalizing index with
  | nil => rfl
  | cons item rest ih => rw [itemsWithout, checkItems, checkItems, h, ih]

mutual

/-- **Reading a value of a shape passes over** what the shape passes over. -/
theorem Shape.check_without : (shape : Shape) → shape.isDistinct = true → {removed : Place → Bool} →
    (∀ place, removed place = true → shape.PassesOver place) → (value : Value) →
    shape.check (value.without removed) = shape.check value
  | .anything, _, _, h, value | .text, _, _, h, value | .integer, _, _, h, value
  | .number, _, _, h, value | .flag, _, _, h, value | .word _ _, _, _, h, value
  | .textOrNumber, _, _, h, value | .numberOrText, _, _, h, value | .content, _, _, h, value
  | .textMap, _, _, h, value => Shape.check_without_of_plain rfl h value
  | .list item, hdistinct, removed, h, value => by
    -- in the place of a list everything else is refused, whatever is in it
    cases value with
    | list items =>
      refine congrArg (Value.list <$> ·) (checkItems_itemsWithout (fun index value => ?_) 0 items)
      refine item.check_without hdistinct (fun place hremoved => ?_) value
      obtain ⟨fields, hfields, hwithin⟩ := h _ hremoved
      exact ⟨fields, hfields, .inl hwithin.of_item⟩
    | _ => rfl
  | .optional shape, hdistinct, removed, h, value => by
    have hshape := shape.check_without hdistinct h value
    cases value with
    | null => rfl
    | _ => exact hshape
  | .record model fields, hdistinct, removed, h, value => by
    cases value with
    | object given =>
      refine congrArg (Value.object <$> ·) (checkFields_without fields hdistinct ?_)
      intro field hfield key hkey
      have hfind := find?_of_isNamed hdistinct hfield hkey
      have hover {place : Place} (hremoved : removed (.field key :: place) = true) :
          PassedOver fields (.field key :: place) := by
        obtain ⟨fields', hfields, hwithin⟩ := h _ hremoved
        cases hfields
        exact hwithin.of_field
      refine ⟨?_, fun place hremoved => (hover hremoved).passesOver hfind⟩
      rw [Bool.eq_false_iff]
      intro hremoved
      cases (hover hremoved).find?_eq_none.symm.trans hfind
    | _ => rfl

theorem checkFields_without : (fields : List ShapeField) → fieldsDistinct fields = true →
    {removed : Place → Bool} → {given : Object} →
    (∀ field ∈ fields, ∀ key, field.isNamed key = true → removed [.field key] = false ∧
      ∀ place, removed (.field key :: place) = true → field.shape.PassesOver place) →
    checkFields fields (entriesWithout removed given) = checkFields fields given
  | [], _, _, _, _ => rfl
  | field :: rest, hdistinct, removed, given, h => by
    rw [fieldsDistinct, Bool.and_eq_true, Bool.and_eq_true] at hdistinct
    obtain ⟨⟨-, hfirst⟩, hrest⟩ := hdistinct
    obtain ⟨hfield, hlater⟩ := List.forall_mem_cons.1 h
    rw [checkFields, checkFields, field.check_without hfirst hfield,
      checkFields_without rest hrest hlater]

theorem ShapeField.check_without : (field : ShapeField) → field.isDistinct = true →
    {removed : Place → Bool} → {given : Object} →
    (∀ key, field.isNamed key = true → removed [.field key] = false ∧
      ∀ place, removed (.field key :: place) = true → field.shape.PassesOver place) →
    field.check (entriesWithout removed given) = field.check given
  | .mk name shape standIn, hdistinct, removed, given, h => by
    have hnamed {key : String} (hkey : key = humpName name ∨ key = name) :
        (ShapeField.mk name shape standIn).isNamed key = true := by
      rw [ShapeField.isNamed, Bool.or_eq_true, beq_iff_eq, beq_iff_eq]
      exact hkey.symm
    have hfound := givenField?_entriesWithout given fun key hkey => (h key (hnamed hkey)).1
    unfold ShapeField.check
    rw [hfound]
    cases hgiven : givenField? given name with
    | none => rfl
    | some entry =>
      obtain ⟨key, value⟩ := entry
      refine congrArg (Checked.under key) (shape.check_without hdistinct ?_ value)
      exact (h key (hnamed (key_of_givenField? hgiven))).2

end

/-! ## Configurations of nodes -/

theorem NodeType.isDistinct_shape (type : NodeType) : type.shape.isDistinct = true := by
  cases type <;> decide +kernel

theorem givenConfig_object (entries : Object) :
    givenConfig (.object entries) = .object entries := by
  cases entries <;> rfl

/-- **Unknown keys are exactly what reading ignores.** Let the entries at the places of the unknown
keys of a configuration be taken out, those in lists and objects too. Then there is no unknown key
left, and the configuration reads as before: to the same fields, or with the same problems. -/
theorem NodeType.readConfig_without_unknown (type : NodeType) (entries : Object) :
    let config := Value.object entries
    let places := unknownPlaces type.fields config
    let known := config.without places.contains
    unknownKeys type.fields "" config = places.map Place.text ∧
      unknownKeys type.fields "" known = [] ∧ type.readConfig known = type.readConfig config := by
  intro config places known
  have hover : ∀ place, places.contains place = true → PassedOver type.fields place :=
    fun place hplace => passedOver_of_mem_unknownPlaces config (List.contains_iff_mem.1 hplace)
  have hcheck : type.shape.check known = type.shape.check config :=
    type.shape.check_without type.isDistinct_shape
      (fun place hplace => ⟨type.fields, rfl, .inl (hover place hplace)⟩) config
  refine ⟨?_, ?_, ?_⟩
  · rw [unknownKeys_eq]
    exact List.map_congr_left fun place _ => String.empty_append
  · rw [unknownKeys_eq, unknownPlaces_without (fun _ _ hplace => hover _ hplace) config
      fun place hplace => List.contains_iff_mem.2 hplace, List.map_nil]
  · have hknown : known = .object (entriesWithout places.contains entries) := rfl
    rw [hknown] at hcheck ⊢
    rw [readConfig, readConfig, givenConfig_object, givenConfig_object, hcheck]

end ChatFlow

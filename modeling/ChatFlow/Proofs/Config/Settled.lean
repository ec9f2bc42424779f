import ChatFlow.Proofs.Config.Complaints
import ChatFlow.Proofs.Config.Ignored
import ChatFlow.Proofs.Value.Rendering

/-!
# Configurations settle

A configuration that was read is written out again as the object of its fields, under their plain
names. `Shape.isNormal` says which values a shape leaves as they are. `Shape.check_of_isNormal` says
that it does leave them, and `Shape.isNormal_of_check` that it gives nothing else, as long as the
values that stand in for fields are such values themselves.

Stand-ins are taken as they are and not checked, and there is one that is not in its normal form:
the whole number one that stands in for the seconds of a delay, where a number is expected.
Main statement: `NodeType.readConfig_settles`.
-/

namespace ChatFlow

/-! ## Values in their normal form -/

mutual

/-- Whether a value is one that a shape leaves as it is. -/
def Shape.isNormal : Shape → Value → Bool
  | .anything, _ => true
  | .text, value => value.text?.isSome
  | .integer, value =>
    match value with
    | .int _ => true
    | _ => false
  | .number, value =>
    match value with
    | .float _ => true
    | _ => false
  | .flag, value =>
    match value with
    | .bool _ => true
    | _ => false
  | .word upper options, value =>
    match value with
    | .text word => options.contains word && (!upper || toUpperText word == word)
    | _ => false
  | .textOrNumber, value | .numberOrText, value =>
    match value with
    | .text _ | .float _ => true
    | _ => false
  | .content, value =>
    match value with
    | .text _ | .object _ | .list _ => true
    | _ => false
  | .textMap, value =>
    match value with
    | .object fields => fields.all (·.2.text?.isSome)
    | _ => false
  | .list item, value =>
    match value with
    | .list items => items.all fun value => item.isNormal value
    | _ => false
  | .optional shape, value =>
    match value with
    | .null => true
    | other => shape.isNormal other
  | .record _ fields, value =>
    match value with
    | .object entries => fieldsNormal fields entries
    | _ => false

/-- Whether the entries are those of the fields of a record, all of them, under their plain names
and in their order, each with a value that its field leaves as it is. -/
def fieldsNormal : List ShapeField → Object → Bool
  | [], entries => entries.isEmpty
  | field :: rest, entries =>
    match entries with
    | [] => false
    | (name, value) :: others =>
      name == field.name && field.isNormal value && fieldsNormal rest others

/-- Whether a value is one that a field leaves as it is. -/
def ShapeField.isNormal : ShapeField → Value → Bool
  | .mk _ shape _, value => shape.isNormal value

end

mutual

/-- Whether every value that stands in for a field of a record in a shape is in its normal form, and
every word that is looked for in capitals is written in capitals. -/
def Shape.isSettled : Shape → Bool
  | .list item => item.isSettled
  | .optional shape => shape.isSettled
  | .record _ fields => fieldsSettled fields
  | .word upper options => options.all fun word => !upper || toUpperText word == word
  | _ => true

/-- Whether every value that stands in for a field is in its normal form, also in the records that
the fields hold. -/
def fieldsSettled : List ShapeField → Bool
  | [] => true
  | field :: rest => field.isSettled && fieldsSettled rest

/-- Whether the value that stands in for a field is in its normal form, and so on in the records
that the field holds. -/
def ShapeField.isSettled : ShapeField → Bool
  | .mk _ shape standIn => shape.isSettled && standIn.all fun value => shape.isNormal value

end

/-! ## What passes a check -/

namespace Checked

variable {α β γ : Type}

theorem both_eq_ok {combine : α → β → γ} {first : Checked α} {second : Checked β} {c : γ} :
    Checked.both combine first second = .ok c ↔
      ∃ a b, first = .ok a ∧ second = .ok b ∧ combine a b = c := by
  cases first <;> cases second <;> simp [Checked.both]

theorem mapError_eq_ok {change : List Problem → List Problem} {checked : Checked α} {a : α} :
    Except.mapError change checked = .ok a ↔ checked = .ok a := by
  cases checked <;> simp [Except.mapError]

end Checked

open Checked

/-! ## A value in its normal form is left as it is -/

theorem checkText_of_isSome {value : Value} (h : value.text?.isSome = true) :
    checkText value = .ok value := by
  cases value <;> first | rfl | cases h

theorem checkTextFields_of_all {fields : Object} (h : fields.all (·.2.text?.isSome) = true) :
    checkTextFields fields = .ok fields := by
  induction fields with
  | nil => rfl
  | cons entry rest ih =>
    rw [List.all_cons, Bool.and_eq_true] at h
    rw [checkTextFields, checkText_of_isSome h.1, ih h.2]
    rfl

theorem checkItems_of_forall {check : Value → Checked Value} {items : List Value}
    (h : ∀ item ∈ items, check item = .ok item) (index : Nat) :
    checkItems check index items = .ok items := by
  induction items generalizing index with
  | nil => rfl
  | cons item rest ih =>
    obtain ⟨hitem, hrest⟩ := List.forall_mem_cons.1 h
    rw [checkItems, hitem, ih hrest]
    rfl

theorem checkWord_of_isNormal {upper : Bool} {options : List String} {word : String}
    (h : (options.contains word && (!upper || toUpperText word == word)) = true) :
    checkWord upper options (.text word) = .ok (.text word) := by
  rw [Bool.and_eq_true] at h
  have hword : (if upper then toUpperText word else word) = word := by
    cases upper with
    | false => rfl
    | true => exact beq_iff_eq.1 h.2
  simp only [checkWord, hword]
  exact if_pos h.1

theorem field?_append (front entries : Object) (key : String) :
    Object.field? (front ++ entries) key = (front.field? key).or (entries.field? key) := by
  induction front with
  | nil => rfl
  | cons entry rest ih =>
    obtain ⟨name, value⟩ := entry
    rw [List.cons_append, Object.field?, Object.field?]
    split
    · rfl
    · exact ih

/-- A field that is given under its plain name, and under no other, is found there. -/
theorem givenField?_of_plain {given : Object} {name : String} {value : Value}
    (hplain : given.field? name = some value)
    (hhump : humpName name ≠ name → given.field? (humpName name) = none) :
    givenField? given name = some (name, value) := by
  by_cases hname : humpName name = name
  · rw [givenField?, hname, hplain]
  · rw [givenField?, hhump hname, hplain]
    rfl

/-- Entries in their normal form have no names but the plain names of the fields. -/
theorem field?_of_fieldsNormal {fields : List ShapeField} {entries : Object} {key : String}
    (h : fieldsNormal fields entries = true) (hkey : ∀ field ∈ fields, field.name ≠ key) :
    entries.field? key = none := by
  induction fields generalizing entries with
  | nil =>
    rw [List.isEmpty_iff.1 h]
    rfl
  | cons field rest ih =>
    obtain ⟨hfield, hrest⟩ := List.forall_mem_cons.1 hkey
    cases entries with
    | nil => rfl
    | cons entry others =>
      obtain ⟨name, value⟩ := entry
      rw [fieldsNormal, Bool.and_eq_true, Bool.and_eq_true, beq_iff_eq] at h
      rw [Object.field?, if_neg (h.1.1 ▸ hfield), ih h.2 hrest]

theorem ShapeField.isNamed_iff {field : ShapeField} {key : String} :
    field.isNamed key = true ↔ key = field.name ∨ key = humpName field.name := by
  rw [isNamed, Bool.or_eq_true, beq_iff_eq, beq_iff_eq]

/-- Fields that are apart have different plain names, and neither goes by the other's. -/
theorem ShapeField.isApart_iff {field other : ShapeField} :
    field.isApart other = true ↔
      ¬field.isNamed other.name = true ∧ ¬field.isNamed (humpName other.name) = true := by
  rw [isApart, Bool.and_eq_true, Bool.not_eq_true', Bool.not_eq_true', Bool.not_eq_true,
    Bool.not_eq_true]

mutual

/-- **A shape leaves a value in its normal form as it is.** -/
theorem Shape.check_of_isNormal : (shape : Shape) → shape.isDistinct = true → {value : Value} →
    shape.isNormal value = true → shape.check value = .ok value
  | .anything, _, _, _ => rfl
  | .text, _, _, h => checkText_of_isSome h
  | .integer, _, .int _, _ => rfl
  | .number, _, .float _, _ => rfl
  | .flag, _, .bool _, _ => rfl
  | .word _ _, _, .text _, h => checkWord_of_isNormal h
  | .textOrNumber, _, .text _, _ | .textOrNumber, _, .float _, _ => rfl
  | .numberOrText, _, .text _, _ | .numberOrText, _, .float _, _ => rfl
  | .content, _, .text _, _ | .content, _, .object _, _ | .content, _, .list _, _ => rfl
  | .textMap, _, .object _, h => congrArg (Value.object <$> ·) (checkTextFields_of_all h)
  | .list item, hdistinct, .list _, h =>
    congrArg (Value.list <$> ·) (checkItems_of_forall
      (fun _ hmem => item.check_of_isNormal hdistinct (List.all_eq_true.1 h _ hmem)) 0)
  | .optional _, _, .null, _ => rfl
  | .optional shape, hdistinct, .bool _, h | .optional shape, hdistinct, .int _, h
  | .optional shape, hdistinct, .float _, h | .optional shape, hdistinct, .text _, h
  | .optional shape, hdistinct, .list _, h | .optional shape, hdistinct, .object _, h =>
    shape.check_of_isNormal hdistinct h
  | .record _ fields, hdistinct, .object _, h =>
    congrArg (Value.object <$> ·) (checkFields_of_normal fields hdistinct [] h (fun _ _ _ _ => rfl))

/-- The entries may stand behind others, as long as these are not given for any of the fields. -/
theorem checkFields_of_normal : (fields : List ShapeField) → fieldsDistinct fields = true →
    (front : Object) → {own : Object} → fieldsNormal fields own = true →
    (∀ field ∈ fields, ∀ key, field.isNamed key = true → front.field? key = none) →
    checkFields fields (front ++ own) = .ok own
  | [], _, _, _, h, _ => by
    rw [List.isEmpty_iff.1 h]
    rfl
  | field :: rest, hdistinct, front, (_, value) :: others, h, hfront => by
    rw [fieldsDistinct, Bool.and_eq_true, Bool.and_eq_true] at hdistinct
    rw [fieldsNormal, Bool.and_eq_true, Bool.and_eq_true, beq_iff_eq] at h
    obtain ⟨⟨hapart, hfield⟩, hrest⟩ := hdistinct
    obtain ⟨⟨rfl, hvalue⟩, hothers⟩ := h
    obtain ⟨hfree, hlater⟩ := List.forall_mem_cons.1 hfront
    have happarts (other : ShapeField) (hmem : other ∈ rest) :=
      ShapeField.isApart_iff.1 (List.all_eq_true.1 hapart other hmem)
    have hgiven : givenField? (front ++ (field.name, value) :: others) field.name =
        some (field.name, value) := by
      refine givenField?_of_plain ?_ fun hhump => ?_
      · rw [field?_append, hfree _ (ShapeField.isNamed_iff.2 (.inl rfl)), Object.field?,
          if_pos rfl, Option.none_or]
      · have hnone : Object.field? others (humpName field.name) = none :=
          field?_of_fieldsNormal hothers fun other hmem he =>
            (happarts other hmem).1 (ShapeField.isNamed_iff.2 (.inr he))
        rw [field?_append, hfree _ (ShapeField.isNamed_iff.2 (.inr rfl)), Object.field?,
          if_neg (Ne.symm hhump), hnone, Option.none_or]
    have htail : checkFields rest (front ++ (field.name, value) :: others) = .ok others := by
      rw [List.append_cons]
      refine checkFields_of_normal rest hrest _ hothers fun other hmem key hkey => ?_
      have hname : field.name ≠ key := fun he => by
        rcases ShapeField.isNamed_iff.1 hkey with hkey | hkey
        · exact (happarts other hmem).1 (ShapeField.isNamed_iff.2 (.inl (he.trans hkey).symm))
        · exact (happarts other hmem).2 (ShapeField.isNamed_iff.2 (.inl (he.trans hkey).symm))
      rw [field?_append, hlater other hmem key hkey, Object.field?, if_neg hname]
      rfl
    rw [checkFields, field.check_of_isNormal hfield hgiven hvalue, htail]
    rfl

theorem ShapeField.check_of_isNormal : (field : ShapeField) → field.isDistinct = true →
    {given : Object} → {key : String} → {value : Value} →
    givenField? given field.name = some (key, value) → field.isNormal value = true →
    field.check given = .ok value
  | .mk name shape standIn, hdistinct, given, key, value, hgiven, h => by
    rw [ShapeField.name] at hgiven
    unfold ShapeField.check
    rw [hgiven]
    exact congrArg (Checked.under key) (shape.check_of_isNormal hdistinct h)

end

/-! ## Nothing but a value in its normal form is given -/

theorem isNormal_of_checkInteger {value result : Value} (h : checkInteger value = .ok result) :
    Shape.integer.isNormal result = true := by
  unfold checkInteger at h
  repeat' split at h
  all_goals first | (cases h; rfl) | cases h

theorem isNormal_of_checkNumber {value result : Value} (h : checkNumber value = .ok result) :
    Shape.number.isNormal result = true := by
  unfold checkNumber at h
  repeat' split at h
  all_goals first | (cases h; rfl) | cases h

theorem isNormal_of_checkFlag {value result : Value} (h : checkFlag value = .ok result) :
    Shape.flag.isNormal result = true := by
  unfold checkFlag flagOf at h
  repeat' split at h
  all_goals first | (cases h; rfl) | cases h

theorem isNormal_of_checkText {value result : Value} (h : checkText value = .ok result) :
    Shape.text.isNormal result = true := by
  unfold checkText at h
  split at h <;> cases h
  rfl

theorem isNormal_of_checkTextFields {fields result : Object}
    (h : checkTextFields fields = .ok result) : Shape.textMap.isNormal (.object result) = true := by
  induction fields generalizing result with
  | nil =>
    cases h
    rfl
  | cons entry rest ih =>
    rw [checkTextFields] at h
    obtain ⟨text, texts, htext, htexts, rfl⟩ := both_eq_ok.1 h
    have hfirst := isNormal_of_checkText (mapError_eq_ok.1 htext)
    rw [Shape.isNormal, List.all_cons, Bool.and_eq_true]
    exact ⟨hfirst, ih htexts⟩

theorem isNormal_of_checkWord {upper : Bool} {options : List String} {value result : Value}
    (hsettled : (Shape.word upper options).isSettled = true)
    (h : checkWord upper options value = .ok result) :
    (Shape.word upper options).isNormal result = true := by
  cases value with
  | text s =>
    rw [checkWord] at h
    generalize (if upper then toUpperText s else s) = word at h
    split at h <;> cases h
    next hword =>
      have hcapital := List.all_eq_true.1 hsettled word (List.contains_iff_mem.1 hword)
      rw [Shape.isNormal, hword, hcapital]
      rfl
  | _ => cases h

theorem forall_of_checkItems {check : Value → Checked Value} {P : Value → Prop}
    (hcheck : ∀ {value result}, check value = .ok result → P result) {index : Nat}
    {items results : List Value} (h : checkItems check index items = .ok results) :
    ∀ result ∈ results, P result := by
  induction items generalizing index results with
  | nil =>
    cases h
    exact fun _ hmem => absurd hmem List.not_mem_nil
  | cons item rest ih =>
    rw [checkItems] at h
    obtain ⟨first, others, hfirst, hothers, rfl⟩ := both_eq_ok.1 h
    exact List.forall_mem_cons.2 ⟨hcheck (mapError_eq_ok.1 hfirst), ih hothers⟩

/-- A text is taken as it is and everything else as a number. -/
theorem isNormal_of_checkTextOrNumber {value result : Value}
    (h : Shape.textOrNumber.check value = .ok result) :
    Shape.textOrNumber.isNormal result = true := by
  unfold Shape.check at h
  split at h
  · cases h
    rfl
  · have hnumber := isNormal_of_checkNumber (mapError_eq_ok.1 h)
    cases result <;> first | rfl | cases hnumber

theorem isNormal_of_checkNumberOrText {value result : Value}
    (h : Shape.numberOrText.check value = .ok result) :
    Shape.numberOrText.isNormal result = true := by
  unfold Shape.check at h
  split at h
  · cases h
    rfl
  · have hnumber := isNormal_of_checkNumber (mapError_eq_ok.1 h)
    cases result <;> first | rfl | cases hnumber

theorem Shape.isNormal_optional {shape : Shape} {value : Value} (h : shape.isNormal value = true) :
    (Shape.optional shape).isNormal value = true := by
  cases value <;> first | rfl | exact h

/-- What a field gives is what its shape makes of the value given for it, or its stand-in. -/
theorem ShapeField.check_eq_ok {name : String} {shape : Shape} {standIn : Option Value}
    {given : Object} {result : Value}
    (h : (ShapeField.mk name shape standIn).check given = .ok result) :
    (∃ key value, givenField? given name = some (key, value) ∧ shape.check value = .ok result) ∨
      givenField? given name = none ∧ standIn = some result := by
  unfold ShapeField.check at h
  split at h
  · next _ key value hgiven => exact .inl ⟨key, value, hgiven, mapError_eq_ok.1 h⟩
  · next hgiven =>
    cases h
    exact .inr ⟨hgiven, rfl⟩
  · cases h

mutual

/-- **A shape gives nothing but values in their normal form**, if whatever stands in for a field
is one. -/
theorem Shape.isNormal_of_check : (shape : Shape) → shape.isSettled = true →
    {value result : Value} → shape.check value = .ok result → shape.isNormal result = true
  | .anything, _, _, _, _ => rfl
  | .text, _, _, _, h => isNormal_of_checkText h
  | .integer, _, _, _, h => isNormal_of_checkInteger h
  | .number, _, _, _, h => isNormal_of_checkNumber h
  | .flag, _, _, _, h => isNormal_of_checkFlag h
  | .word _ _, hsettled, _, _, h => isNormal_of_checkWord hsettled h
  | .textOrNumber, _, _, _, h => isNormal_of_checkTextOrNumber h
  | .numberOrText, _, _, _, h => isNormal_of_checkNumberOrText h
  | .content, _, _, _, h => by
    unfold Shape.check at h
    split at h <;> cases h <;> rfl
  | .textMap, _, _, _, h => by
    unfold Shape.check at h
    split at h
    · obtain ⟨fields, hfields, rfl⟩ := map_eq_ok_iff.1 h
      exact isNormal_of_checkTextFields hfields
    · cases h
  | .list item, hsettled, _, _, h => by
    unfold Shape.check at h
    split at h
    · obtain ⟨items, hitems, rfl⟩ := map_eq_ok_iff.1 h
      exact List.all_eq_true.2 (forall_of_checkItems (item.isNormal_of_check hsettled) hitems)
    · cases h
  | .optional shape, hsettled, _, _, h => by
    unfold Shape.check at h
    split at h
    · cases h
      rfl
    · exact Shape.isNormal_optional (shape.isNormal_of_check hsettled h)
  | .record _ fields, hsettled, _, _, h => by
    unfold Shape.check at h
    split at h
    · obtain ⟨entries, hentries, rfl⟩ := map_eq_ok_iff.1 h
      exact fieldsNormal_of_checkFields fields hsettled hentries
    · cases h

theorem fieldsNormal_of_checkFields : (fields : List ShapeField) → fieldsSettled fields = true →
    {given entries : Object} → checkFields fields given = .ok entries →
    fieldsNormal fields entries = true
  | [], _, _, _, h => by
    cases h
    rfl
  | field :: rest, hsettled, given, _, h => by
    rw [fieldsSettled, Bool.and_eq_true] at hsettled
    obtain ⟨value, others, hvalue, hothers, rfl⟩ := both_eq_ok.1 h
    have hfirst := field.isNormal_of_check hsettled.1 hvalue
    have hrest := fieldsNormal_of_checkFields rest hsettled.2 hothers
    rw [fieldsNormal, beq_self_eq_true, hfirst, hrest]
    rfl

theorem ShapeField.isNormal_of_check : (field : ShapeField) → field.isSettled = true →
    {given : Object} → {result : Value} → field.check given = .ok result →
    field.isNormal result = true
  | .mk _ shape standIn, hsettled, _, _, h => by
    rw [ShapeField.isSettled, Bool.and_eq_true] at hsettled
    rcases ShapeField.check_eq_ok h with ⟨_, _, -, hvalue⟩ | ⟨-, rfl⟩
    · exact shape.isNormal_of_check hsettled.1 hvalue
    · exact hsettled.2

end

/-! ## Configurations of nodes -/

namespace NodeType

variable {type : NodeType} {config : Value} {fields : Object}

theorem isSettled_shape (h : type ≠ .delay) : type.shape.isSettled = true := by
  cases type <;> first | exact absurd rfl h | decide +kernel

/-- What is read is the object of its fields. -/
theorem readConfig_eq_ok :
    type.readConfig config = .ok fields ↔
      type.shape.check (givenConfig config) = .ok (.object fields) := by
  constructor
  · intro h
    unfold readConfig at h
    split at h
    · next value hvalue =>
      cases hgiven : givenConfig config with
      | object given =>
        rw [hgiven] at hvalue
        obtain ⟨entries, -, rfl⟩ := map_eq_ok_iff.1 hvalue
        cases h
        exact hvalue
      | _ =>
        rw [hgiven] at hvalue
        cases hvalue
    · cases h
  · intro h
    rw [readConfig, h]
    rfl

/-- Fields in their normal form read as themselves. -/
theorem readConfig_of_isNormal (h : type.shape.isNormal (.object fields) = true) :
    type.readConfig (.object fields) = .ok fields := by
  rw [readConfig_eq_ok, givenConfig_object]
  exact type.shape.check_of_isNormal type.isDistinct_shape h

/-- What is read is in its normal form, unless it is a delay that does not say how long it is. -/
theorem isNormal_of_readConfig (h : type.readConfig config = .ok fields) :
    type.shape.isNormal (.object fields) = true ∨
      type = .delay ∧ fields = [("delay_seconds", .int 1)] ∧
        ∃ given, givenConfig config = .object given ∧ givenField? given "delay_seconds" = none := by
  rw [readConfig_eq_ok] at h
  by_cases hdelay : type = .delay
  · subst hdelay
    cases hgiven : givenConfig config with
    | object given =>
      rw [hgiven] at h
      obtain ⟨entries, hentries, he⟩ := map_eq_ok_iff.1 h
      cases he
      obtain ⟨seconds, rest, hseconds, hrest, rfl⟩ := both_eq_ok.1 hentries
      cases hrest
      rcases ShapeField.check_eq_ok hseconds with ⟨_, _, -, hnumber⟩ | ⟨hnone, hone⟩
      · have hnormal := isNormal_of_checkNumber hnumber
        exact .inl (Bool.and_eq_true_iff.2 ⟨Bool.and_eq_true_iff.2 ⟨rfl, hnormal⟩, rfl⟩)
      · cases hone
        exact .inr ⟨rfl, rfl, given, rfl, hnone⟩
    | _ =>
      rw [hgiven] at h
      cases h
  · exact .inl (type.shape.isNormal_of_check (isSettled_shape hdelay) h)

/-- **Reading a configuration settles it.** The fields that are read, written out as an object under
their plain names, read as themselves. Only those of a delay that does not say how long it is read
as the same number of seconds in its normal form, which then reads as itself. -/
theorem readConfig_settles (h : type.readConfig config = .ok fields) :
    ∃ again, type.readConfig (.object fields) = .ok again ∧
      type.readConfig (.object again) = .ok again ∧
      type.shape.isNormal (.object again) = true ∧
      (again = fields ∨
        type = .delay ∧ fields = [("delay_seconds", .int 1)] ∧
          again = [("delay_seconds", .float 1.0)] ∧
          ∃ given, givenConfig config = .object given ∧
            givenField? given "delay_seconds" = none) := by
  rcases isNormal_of_readConfig h with hnormal | ⟨rfl, rfl, hgiven⟩
  · have hread := readConfig_of_isNormal hnormal
    exact ⟨fields, hread, hread, hnormal, .inl rfl⟩
  · exact ⟨_, rfl, readConfig_of_isNormal rfl, rfl, .inr ⟨rfl, rfl, rfl, hgiven⟩⟩

/-- A call with fields under both kinds of names, which is read in capitals and numbers. -/
def untidyCall : Value :=
  .object [("method", .text "patch"), ("url", .text "https://crm.test/leads"),
    ("timeoutMs", .text "2500"), ("response_mapping", .list [.object
      [("variableName", .text "lead"), ("json_path", .text "$.id")]])]

/-- The fields that are read of the call. -/
def tidyCall : Object :=
  [("method", .text "PATCH"), ("url", .text "https://crm.test/leads"), ("headers", .object []),
    ("body", .null), ("response_mapping", .list [.object [("variable_name", .text "lead"),
      ("response_path", .null), ("json_path", .text "$.id")]]), ("timeout_ms", .int 2500)]

theorem readConfig_settles_call :
    apiCall.readConfig untidyCall = .ok tidyCall ∧
      apiCall.readConfig (.object tidyCall) = .ok tidyCall := by
  have hread : apiCall.readConfig untidyCall = .ok tidyCall := rfl
  obtain ⟨again, hagain, -, -, rfl | ⟨hdelay, -⟩⟩ := readConfig_settles hread
  · exact ⟨hread, hagain⟩
  · cases hdelay

/-- **Reading does not settle every configuration at once**: the second that a delay lasts if it
does not say how long is a whole number, and is read again as a number of another kind. -/
theorem readConfig_unsettled :
    ¬∀ (type : NodeType) (config : Value) (fields : Object),
      type.readConfig config = .ok fields → type.readConfig (.object fields) = .ok fields := by
  intro h
  cases h .delay (.object []) [("delay_seconds", .int 1)] rfl

end NodeType

end ChatFlow

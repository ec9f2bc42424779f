import ChatFlow.Proofs.Engine.Serial
import ChatFlow.Proofs.Engine.Steps

/-!
# Completion is final

A completed execution is never changed again. It is not found when a message comes, and a wake-up
call that finds it is dropped, so all that could still reach it are invocations that read it before
it was completed. What they write is for an earlier version and is refused.

`Good.mem_of_completed` says this of a step. Main statement: `Machine.completed_final`, for any
further moves.
-/

namespace ChatFlow

variable {w : World} {row : Execution}

/-- Nothing goes on with a completed execution. -/
theorem Execution.not_isActive_of_completed (hc : row.status = .completed) :
    ¬ row.status.isActive = true := by
  rw [hc]
  exact Bool.false_ne_true

/-- No invocation dispatches a node for a completed execution. -/
theorem World.dispatched_eq_nil_of_completed (hs : w.executions.Sound)
    (hrow : row ∈ w.executions.rows) (hc : row.status = .completed) (event : Event) :
    w.dispatched row.id event = [] := by
  unfold dispatched
  split
  · next leg w' hwalk =>
    refine if_neg fun hid => ?_
    obtain ⟨call, -, -, hl⟩ := walk?_some hwalk
    have hheld : leg.held = row := (hl.sound hs).eq_of_id hl.held_mem (hl.mem_of_mem hrow) hid
    rcases hl.active_or_new with ⟨-, hactive⟩ | ⟨trigger, -, -, hrunning⟩
    · rw [hheld] at hactive
      exact Execution.not_isActive_of_completed hc hactive
    · rw [hheld, hc] at hrunning
      cases hrunning
  · rfl

/-- A task that holds a completed execution is over at its next step, and changes nothing. -/
theorem Task.step_of_completed {t : Task} (hv : t.Valid) (hheld : t.held? = some row)
    (hc : row.status = .completed) (w : World) :
    ∃ id, t.step.exec w = (.ok (.inr ⟨.ignored, some id, some .completed⟩), w) := by
  have hno := Execution.not_isActive_of_completed hc
  cases t with
  | departing departure credentials message =>
    obtain rfl := Option.some.inj hheld
    exact absurd hv hno
  | holding held credentials message =>
    obtain rfl := Option.some.inj hheld
    exact absurd hv hno
  | writing c =>
    obtain rfl := Option.some.inj hheld
    exact absurd hv.1 hno
  | woken found id version =>
    obtain rfl : found = some row := hheld
    have hw : row.waitsForTimer = false := by
      rw [Execution.waitsForTimer, hc]
      rfl
    refine ⟨id, ?_⟩
    simp only [step, Work.exec_bind, Work.exec_wake, hw, Bool.not_false, Bool.true_or, if_true, hc]
    rfl
  | inbound | unmatched | start | barred | called => cases hheld

namespace Machine

variable {m : Machine} {t : Task} {result : Except Failure (Task ⊕ Outcome) × World}

/-- **A step leaves a completed execution alone**: what is written was active when it was read. -/
theorem Good.mem_of_completed (hg : m.Good) (ht : t ∈ m.tasks) (hd : t.Does m.world result)
    (hrow : row ∈ m.world.executions.rows) (hc : row.status = .completed) :
    row ∈ result.2.executions.rows := by
  cases hd with
  | ends | rearms | goesOn | finds | looksUp | notes | yields => exact hrow
  | walks leg hwalk => exact (leg.keeps_walked m.world).rows ▸ hrow
  | opens => exact List.mem_append_left _ hrow
  | writes c htask hany =>
    subst htask
    have hheld := hg.mem_of_isHeld ht hany
    refine (hg.sound.mem_rewrite_iff hheld).2 (.inr ⟨hrow, fun hid => ?_⟩)
    obtain rfl := hg.sound.eq_of_id hrow hheld hid
    exact Execution.not_isActive_of_completed hc (hg.valid _ ht).1

/-- A completed execution is there after any moves. -/
theorem Good.mem_run_of_completed (hg : m.Good) (hrow : row ∈ m.world.executions.rows)
    (hc : row.status = .completed) (moves : List Move) :
    (m.run moves).Good ∧ row ∈ (m.run moves).world.executions.rows :=
  hg.induct hrow (.of_forall fun _ _ _ => trivial : m.Throughout (fun _ _ => True) moves)
    (fun _ _ h => h) (fun _ _ _ h => h) fun _ _ _ _ hg ht hd h => hg.mem_of_completed ht hd h hc

/-- Only with a copy of an earlier version, which was read while the execution was active, does a
task dispatch nodes for an execution that is completed now. -/
theorem Good.held_of_dispatched (hg : m.Good) (ht : t ∈ m.tasks)
    (hrow : row ∈ m.world.executions.rows) (hc : row.status = .completed)
    (hd : t.dispatched m.world row.id ≠ []) :
    ∃ held, t.held? = some held ∧ held.id = row.id ∧ held.status.isActive = true ∧
      held.version < row.version := by
  unfold Task.dispatched at hd
  split at hd
  · next leg hwalk =>
    split at hd
    · next hid =>
      have hheld := Task.held?_of_walk? hwalk
      have hactive := (hg.valid t ht).isActive_of_walk? hwalk
      rcases hg.eq_or_version_lt ht hheld hrow hid with heq | hlt
      · rw [heq] at hactive
        exact absurd hactive (Execution.not_isActive_of_completed hc)
      · exact ⟨leg.held, hheld, hid, hactive, hlt⟩
    · exact absurd rfl hd
  · exact absurd rfl hd

/-- What is still to be written for an execution that is completed now is refused. -/
theorem Good.step_writing_of_completed (hg : m.Good) {c : Checkpoint}
    (ht : .writing c ∈ m.tasks) (hrow : row ∈ m.world.executions.rows)
    (hc : row.status = .completed) (hid : c.held.id = row.id) :
    (Task.writing c).step.exec m.world = (.ok (.inr ⟨.conflict, some row.id, none⟩), m.world) := by
  have hstale : m.world.executions.rows.any (Executions.isHeld c.held) = false := by
    refine Bool.eq_false_iff.2 fun hany => ?_
    obtain rfl := hg.sound.eq_of_id (hg.mem_of_isHeld ht hany) hrow hid
    exact Execution.not_isActive_of_completed hc (hg.valid _ ht).1
  rw [Task.step, ← map_eq_pure_bind, Work.exec_map, Work.exec_submit, Executions.update?_eq, hstale,
    ← hid]
  rfl

/-- **Completion is final.** Take any number of invocations that take their steps in any order, and
an execution that is completed at some time. Whatever is done from then on, the execution stays as
it is, in every field. A task that finds it completed is over at once and changes nothing, and one
that read it before dispatches nodes only with its copy of an earlier version; what such a task is
about to write is a conflict and changes nothing. An invocation that begins then dispatches no node
for it. -/
theorem completed_final (hs : w.executions.Sound) (h : m.ComesFrom w)
    (hrow : row ∈ m.world.executions.rows) (hc : row.status = .completed) (moves : List Move) :
    (m.run moves).world.executions.get? row.id = some row ∧
    (∀ t ∈ (m.run moves).tasks,
      (t.held? = some row →
        ∃ id, t.step.exec (m.run moves).world =
          (.ok (.inr ⟨.ignored, some id, some .completed⟩), (m.run moves).world)) ∧
      (t.dispatched (m.run moves).world row.id ≠ [] →
        ∃ held, t.held? = some held ∧ held.id = row.id ∧ held.status.isActive = true ∧
          held.version < row.version) ∧
      ∀ c, t = .writing c → c.held.id = row.id →
        t.step.exec (m.run moves).world =
          (.ok (.inr ⟨.conflict, some row.id, none⟩), (m.run moves).world)) ∧
    ∀ call, (m.run moves).world.dispatched row.id (.invoke call) = [] := by
  obtain ⟨hg, hrow⟩ := (h.good hs).mem_run_of_completed hrow hc moves
  refine ⟨hg.sound.get?_eq_some_iff.2 ⟨hrow, rfl⟩, fun t ht => ⟨fun hheld => ?_, fun hd => ?_, ?_⟩,
    fun call => World.dispatched_eq_nil_of_completed hg.sound hrow hc _⟩
  · exact Task.step_of_completed (hg.valid t ht) hheld hc _
  · exact hg.held_of_dispatched ht hrow hc hd
  · rintro c rfl hid
    exact hg.step_writing_of_completed ht hrow hc hid

/-- After the reply that was written, there are the late write of the other reply and wake-up calls
with and without a version. -/
def lateMoves : List Move :=
  [.invoke (.timer "exec-1" none), .invoke (.timer "exec-1" (some 2)), .turn 0, .turn 0, .turn 0,
    .turn 0, .turn 0]

/-- The execution stays as the first reply has left it. -/
theorem completed_final_raced :
    ∃ row, raced.world.executions.rows = [row] ∧ row.status = .completed ∧ row.version = 3 ∧
      (raced.run lateMoves).world.executions.get? row.id = some row := by
  have hs : askingWorld.executions.Sound := .of_rows_nil rfl
  have h : raced.ComesFrom askingWorld := ⟨_, rfl⟩
  have hrows : raced.world.executions.rows.map (fun row => (row.status, row.version)) =
      [(.completed, 3)] := by cbv
  obtain ⟨row, hrow, hfields⟩ := List.map_eq_singleton_iff.1 hrows
  obtain ⟨hc, hv⟩ := Prod.mk.inj hfields
  have hmem : row ∈ raced.world.executions.rows := hrow ▸ List.mem_singleton_self row
  exact ⟨row, hrow, hc, hv, (completed_final hs h hmem hc lateMoves).1⟩

end Machine

end ChatFlow

import Mathlib
import ChatFlow.Proofs.Engine.Course

/-!
# Failures leave the executions as they were

`Invocation.perform_error` is what a caller may rely on when an invocation fails, whatever it was,
wherever in its course it failed, and however far its walk had come. The executions are what they
were before, except that the start of a flow may leave the execution behind that it created, still
at the trigger. In the log there is one new entry if a node failed, and none otherwise.
-/

namespace ChatFlow

variable {call : Invocation} {w w' : World} {failure : Failure}

/-- What is left of the execution that work with a copy of it was to carry on, if this failed: it
was not written, and one entry was logged for it if a node failed. -/
theorem Carried.error {held : Execution} (h : Carried held w (.error failure, w')) :
    w'.executions.rows = w.executions.rows ∧
      ((¬ failure.IsOfNode ∧ w'.executions.logs = w.executions.logs) ∨
        ∃ node cause, failure = .node node.id node.type cause ∧
          w.FailsAt held.flowId node cause ∧
          w'.executions.logs = w.executions.logs ++ [(held.id, node.errorEntry cause)]) := by
  cases h with
  | nodeFailed node cause outside hn => exact ⟨rfl, .inr ⟨node, cause, rfl, hn, rfl⟩⟩
  | refused failure outside hf => exact ⟨rfl, .inl ⟨hf, rfl⟩⟩

/-- An execution that an invocation creates is one that it may go on with. -/
theorem Invocation.Opens.concerns {row : Execution} (h : call.Opens w row) : call.Concerns row := by
  obtain ⟨flow, channel, customer, message, initial, hs, graph, trigger, -, -, -, rfl⟩ := h
  exact hs.concerns rfl rfl

/-- **A failure keeps the executions.** If an invocation fails, every execution is what it was. The
only one that may be new is that of a flow whose start failed: it runs, in the first version, at the
trigger, with the initial variables and those that the message tells. If a node of the execution's
flow failed, the log has one new entry, which tells of it; otherwise it has none. -/
theorem Invocation.perform_error (h : call.perform.exec w = (.error failure, w')) :
    (w'.executions.rows = w.executions.rows ∨
      ∃ flow channel customer message initial graph trigger,
        call.Starts w flow channel customer message initial ∧
        w.flows.load? flow = some graph ∧ graph.trigger? = some trigger ∧
        w'.executions.rows = w.executions.rows ++
          [{ id := Executions.idOf (w.executions.attempts + 1)
             flowId := flow
             customerId := customer
             channelId := channel.id
             currentNode := some trigger.id
             status := .running
             waitingFor := none
             vars := initial.update message.observed
             version := 1
             resumeAt := none
             completedAt := none }]) ∧
    ((¬ failure.IsOfNode ∧ w'.executions.logs = w.executions.logs) ∨
      ∃ row ∈ w'.executions.rows, ∃ node cause,
        call.Concerns row ∧ failure = .node node.id node.type cause ∧
        w.FailsAt row.flowId node cause ∧
        w'.executions.logs = w.executions.logs ++
          [(row.id, node.entry [("error", .text cause.message)])]) := by
  have hcourse := call.perform_performed w
  rw [h] at hcourse
  cases hcourse with
  | rejected failure hf hd => exact ⟨.inl rfl, .inl ⟨hf, rfl⟩⟩
  | carried held attempts result ha hheld hc hcarried =>
    obtain ⟨hrows, hlogs⟩ := hcarried.error
    refine ⟨.inl hrows, hlogs.imp_right ?_⟩
    rintro ⟨node, cause, hfail, hn, hlog⟩
    exact ⟨held, hrows ▸ hheld, node, cause, hc, hfail, hn, hlog⟩
  | opened row result ho hcarried =>
    obtain ⟨hrows, hlogs⟩ := hcarried.error
    have hrow : row ∈ w'.executions.rows := by
      rw [hrows]
      exact List.mem_append_right _ (List.mem_singleton_self row)
    have hc := ho.concerns
    obtain ⟨flow, channel, customer, message, initial, hs, graph, trigger, hg, ht, -, rfl⟩ := ho
    refine ⟨.inr ⟨flow, channel, customer, message, initial, graph, trigger, hs, hg, ht, hrows⟩,
      hlogs.imp_right ?_⟩
    rintro ⟨node, cause, hfail, hn, hlog⟩
    exact ⟨_, hrow, node, cause, hc, hfail, hn, hlog⟩

/-- A flow that goes from its trigger to a node of an unknown type, which is passed over, and from
there to a delay whose seconds are no number. -/
def brokenGraph : FlowGraph where
  nodes := [⟨"t", "trigger", .object []⟩, ⟨"a", "note", .object []⟩,
    ⟨"b", "delay", .object [("delay_seconds", .list [])]⟩]
  edges := [⟨"t", "a", none, 0⟩, ⟨"a", "b", none, 1⟩]

/-- A world that offers this flow. -/
def brokenWorld : World := .offering ⟨"f", some "c", .anyMessage, 0, true, true⟩ brokenGraph

/-- A first message in this world. -/
def brokenCall : Invocation :=
  .inbound ⟨some "c", ⟨none, none⟩⟩ "x" ⟨.text "text", .text "hi", .null, .null, .null, .null⟩ []

/-- The walk fails at the delay, after it has passed the other node. One execution is left behind,
and one entry in its log. -/
theorem Invocation.perform_error_broken :
    ∃ cause w', brokenCall.perform.exec brokenWorld = (.error (.node "b" "delay" cause), w') ∧
      w'.executions.rows.map (·.currentNode) = [some "t"] ∧
      ∃ row ∈ w'.executions.rows, ∃ entry, w'.executions.logs = [(row.id, entry)] := by
  have hend : ((brokenCall.perform.exec brokenWorld).1,
      (brokenCall.perform.exec brokenWorld).2.executions.rows.map (·.currentNode)) =
      (.error (.node "b" "delay" (.config ⟨"DelayConfig", [⟨["delay_seconds"], .notNumber⟩]⟩)),
        [some "t"]) := by cbv
  rcases h : brokenCall.perform.exec brokenWorld with ⟨result, w'⟩
  rw [h] at hend
  obtain ⟨hfail, hrows⟩ := Prod.mk.inj hend
  obtain rfl : result = _ := hfail
  refine ⟨_, w', rfl, hrows, ?_⟩
  obtain ⟨-, ⟨hno, -⟩ | ⟨row, hrow, node, cause, -, -, -, hlogs⟩⟩ := Invocation.perform_error h
  · exact absurd ⟨_, _, _, rfl⟩ hno
  · exact ⟨row, hrow, _, hlogs⟩

end ChatFlow

import ChatFlow.Proofs.Engine.Work
import ChatFlow.Proofs.Store.Executions

/-!
# The work before the writing

Between reading an execution and writing it, an invocation works on a copy. `Drafted` says all that
this work can do to the world, and each kind of work is drafting: going on with a walk
(`run_drafted`), with a message (`continueWith_drafted`), from the trigger (`setOut_drafted`) and
after a timer (`resumeDue_drafted`). None of them writes an execution. One entry is logged if a node
failed, and nothing if the work failed in another way.

A walk may end anywhere and after any number of nodes. The only thing that the rest needs of it is
that a walk which failed did so at a node of its graph, with what this node's work failed with
(`walkFrom_failed`).
-/

namespace ChatFlow

/-- Whether a failure is that of a node. -/
def Failure.IsOfNode (failure : Failure) : Prop :=
  ∃ id type cause, failure = .node id type cause

/-- The log entry of a node that failed. -/
def FlowNode.errorEntry (node : FlowNode) (cause : Failure) : LogEntry :=
  node.entry [("error", .text cause.message)]

/-- Whether a node belongs to a graph and its work can fail in a way. -/
def FlowGraph.FailsAt (graph : FlowGraph) (node : FlowNode) (cause : Failure) : Prop :=
  node ∈ graph.nodes ∧
    ∃ recipient before after, (node.act recipient).run.run before = (.error cause, after)

/-- Whether a node belongs to a flow and its work can fail in a way. -/
def World.FailsAt (w : World) (flow : String) (node : FlowNode) (cause : Failure) : Prop :=
  ∃ graph, w.flows.load? flow = some graph ∧ graph.FailsAt node cause

/-- What work with a copy of an execution can come to if `Fails` tells how nodes can fail, and how
it leaves the world. Apart from what lies outside, only the log can have changed, and only by the
entry of a node that failed. -/
inductive Drafted (held : Execution) (Fails : FlowNode → Failure → Prop) (w : World) :
    Except Failure Checkpoint × World → Prop where
  /-- A checkpoint for the execution is ready to be written. -/
  | ready (c : Checkpoint) (outside : Outside) (hc : c.held = held) :
      Drafted held Fails w (.ok c, { w with outside })
  | nodeFailed (node : FlowNode) (cause : Failure) (outside : Outside) (hn : Fails node cause) :
      Drafted held Fails w (.error (.node node.id node.type cause),
        { w with
          outside
          executions := w.executions.appendLog held.id (node.errorEntry cause) })
  /-- The work failed before, between or after the nodes. -/
  | refused (failure : Failure) (outside : Outside) (hf : ¬ failure.IsOfNode) :
      Drafted held Fails w (.error failure, { w with outside })

/-- Drafting writes no execution. -/
theorem Drafted.keeps {held : Execution} {Fails : FlowNode → Failure → Prop} {w : World}
    {drafted : Except Failure Checkpoint × World} (h : Drafted held Fails w drafted) :
    w.executions.Keeps drafted.2.executions := by
  cases h <;> exact ⟨rfl, Nat.le_refl _⟩

/-- Drafting in which fewer nodes can fail. -/
theorem Drafted.mono {held : Execution} {Fails Fails' : FlowNode → Failure → Prop} {w : World}
    {drafted : Except Failure Checkpoint × World} (h : Drafted held Fails w drafted)
    (hf : ∀ node cause, Fails node cause → Fails' node cause) :
    Drafted held Fails' w drafted := by
  cases h with
  | ready c outside hc => exact .ready c outside hc
  | nodeFailed node cause outside hn => exact .nodeFailed node cause outside (hf node cause hn)
  | refused failure outside hno => exact .refused failure outside hno

/-- A node that is found by its id is one of the graph. -/
theorem FlowGraph.node?_some {graph : FlowGraph} {id : String} {node : FlowNode}
    (h : graph.node? id = some node) : node ∈ graph.nodes :=
  List.mem_reverse.1 (List.mem_of_find?_eq_some h)

/-- A walk fails at a node of its graph, with what the work of this node failed with. -/
theorem walkFrom_failed {graph : FlowGraph} {recipient : Recipient} {steps : Nat}
    {next last : Option String} {scene : Scene} {node : FlowNode} {cause : Failure}
    (h : (walkFrom graph recipient steps next last scene).ending = .failed node cause) :
    graph.FailsAt node cause := by
  induction steps generalizing next last scene with
  | zero =>
    unfold walkFrom at h
    split at h <;> cases h
  | succ steps ih =>
    unfold walkFrom at h
    split at h
    · cases h
    · next found hfound =>
      obtain ⟨id, -, hid⟩ := Option.bind_eq_some_iff.1 hfound
      dsimp only at h
      split at h
      · next failed after hact =>
        -- the first node of the walk is the one that failed
        injection h with hnode hcause
        subst hnode hcause
        exact ⟨FlowGraph.node?_some hid, recipient, scene, after, hact⟩
      · split at h
        · cases h
        · cases h
        · exact ih h

namespace Work

variable {w : World}

/-- The end of a walk is drafting. -/
theorem settle_drafted {held : Execution} {walk : Walk} {Fails : FlowNode → Failure → Prop}
    (action : Action) (before : List LogEntry)
    (hwalk : ∀ node cause, walk.ending = .failed node cause → Fails node cause) :
    Drafted held Fails w ((settle held action walk before).exec w) := by
  simp only [settle, exec_bind, exec_modify, proceed_ok]
  cases he : walk.ending with
  | failed node cause =>
    simp only [exec_bind, exec_log, proceed_ok, exec_throw]
    exact .nodeFailed node cause _ (hwalk node cause he)
  | parked node reason resumeAt =>
    simp only [exec_bind, exec_liftM]
    cases (resumeAt.mapM (·.instant) : Except Fault (Option Moment)) with
    | error fault => exact .refused (.fault fault) _ (by simp [Failure.IsOfNode])
    | ok moment => exact .ready _ _ rfl
  | completed last =>
    simp only [exec_bind, exec_now, proceed_ok, exec_pure]
    exact .ready _ _ rfl

/-- Walking on in a graph is drafting, in which only nodes of the graph can fail. -/
theorem run_drafted (graph : FlowGraph) (held : Execution) (credentials : Credentials) (env : Env)
    (next : Option String) (before : List LogEntry) (action : Action) :
    Drafted held graph.FailsAt w
      ((run graph held credentials env next before action).exec w) := by
  simp only [run, exec_bind, exec_get, proceed_ok]
  exact settle_drafted action before fun node cause he => walkFrom_failed he

/-- Work that needs the graph of a flow is drafting, in which only nodes of the flow can fail, if it
is so with the graph. -/
theorem graphOf_drafted {held : Execution} {flow : String} {next : FlowGraph → Work Checkpoint}
    (h : ∀ graph, Drafted held graph.FailsAt w ((next graph).exec w)) :
    Drafted held (w.FailsAt flow) w ((graphOf flow >>= next).exec w) := by
  simp only [exec_bind, exec_graphOf]
  cases hg : w.flows.load? flow with
  | none => exact .refused (.unknownFlow flow) w.outside (by simp [Failure.IsOfNode])
  | some graph => exact (h graph).mono fun node cause hn => ⟨graph, hg, hn⟩

end Work

/-- The variable for the reply cannot be told only if the configuration cannot be read. -/
theorem FlowNode.replyVariable?_error {node : FlowNode} {failure : Failure}
    (h : node.replyVariable? = .error failure) : ∃ report, failure = .config report := by
  unfold replyVariable? at h
  split at h
  · cases h
  · split at h
    · cases h
    · next report _ => exact ⟨report, by injection h with h; exact h.symm⟩

namespace Work

variable {w : World}

theorem resume_drafted (held : Execution) (credentials : Credentials) (message : InboundMessage) :
    Drafted held (w.FailsAt held.flowId) w ((resume held credentials message).exec w) := by
  refine graphOf_drafted fun graph => ?_
  dsimp only
  split
  · exact run_drafted ..
  · next node _ =>
    simp only [exec_bind, exec_ofExcept]
    cases hr : node.replyVariable? with
    | error failure =>
      obtain ⟨report, rfl⟩ := FlowNode.replyVariable?_error hr
      exact .refused (.config report) w.outside (by simp [Failure.IsOfNode])
    | ok name => exact run_drafted ..

theorem restart_drafted (held : Execution) (credentials : Credentials) (message : InboundMessage) :
    Drafted held (w.FailsAt held.flowId) w ((restart held credentials message).exec w) :=
  graphOf_drafted fun _ => run_drafted ..

/-- Going on with an active execution is drafting, whatever it waits for. -/
theorem continueWith_drafted (held : Execution) (credentials : Credentials)
    (message : InboundMessage) :
    Drafted held (w.FailsAt held.flowId) w ((continueWith held credentials message).exec w) := by
  unfold continueWith
  split
  · split
    · exact .ready _ w.outside rfl
    · exact resume_drafted held credentials message
  · exact restart_drafted held credentials message

/-- Setting out is drafting, in which only nodes of the graph can fail that was loaded. -/
theorem setOut_drafted (departure : Departure) (credentials : Credentials)
    (message : InboundMessage) :
    Drafted departure.held departure.graph.FailsAt w
      ((setOut departure credentials message).exec w) :=
  run_drafted ..

theorem resumeDue_drafted (held : Execution) :
    Drafted held (w.FailsAt held.flowId) w ((resumeDue held).exec w) := by
  refine graphOf_drafted fun graph => ?_
  simp only [exec_bind, exec_get, proceed_ok]
  exact run_drafted ..

end Work

end ChatFlow

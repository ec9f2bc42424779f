import ChatFlow.Node.Dispatch
import ChatFlow.Store.Executions

/-!
# Walks

A walk goes through a graph from node to node, doing the work of each, until a node waits or ends,
there is no edge to follow, an edge leads nowhere, a node fails, or it has taken as many steps as it
may. It keeps nothing itself: `Walk` tells how it ended, what goes into the log, and how it left the
scene.
-/

namespace ChatFlow

/-- How a walk ended. -/
inductive WalkEnd where
  /-- At a node that waits. -/
  | parked (node reason : String) (resumeAt : Option ZonedMoment)
  /-- With nothing left to do, after the last node that did its work. -/
  | completed (last : Option String)
  /-- At a node that failed. -/
  | failed (node : FlowNode) (cause : Failure)
  deriving Repr

/-- What became of a walk. -/
structure Walk where
  ending : WalkEnd
  entries : List LogEntry
  scene : Scene

/-- The log entry of a node. -/
def FlowNode.entry (node : FlowNode) (result : Object) : LogEntry :=
  ⟨some node.id, some node.type, .object result⟩

/-- What is noted of the node at which a walk has taken too many steps. -/
def stepLimitNotes : Object := [("aborted", .text "max_steps")]

/-- Walks from a node, if there is one, taking at most so many steps. `last` is the last node that
did its work. -/
def walkFrom (graph : FlowGraph) (recipient : Recipient) :
    (steps : Nat) → (next last : Option String) → Scene → Walk
  | steps, next, last, scene =>
    match next.bind graph.node? with
    | none => ⟨.completed last, [], scene⟩
    | some node =>
      match steps with
      | 0 => ⟨.completed last, [node.entry stepLimitNotes], scene⟩
      | steps + 1 =>
        match (node.act recipient).run.run scene with
        | (.error cause, scene) => ⟨.failed node cause, [], scene⟩
        | (.ok result, scene) =>
          let entry := node.entry result.logged
          match result.next with
          | .wait reason resumeAt => ⟨.parked node.id reason resumeAt, [entry], scene⟩
          | .finish => ⟨.completed (some node.id), [entry], scene⟩
          | .leave handle =>
            let target := (graph.nextEdge? node.id handle).map (·.target)
            let rest := walkFrom graph recipient steps target (some node.id) scene
            { rest with entries := entry :: rest.entries }

/-- The number of steps that walks may take if none is set. -/
def usualSteps : Nat := 500

/-- The number of steps that a limit allows: none for a negative limit, and the usual number for a
limit of zero. -/
def stepsOfLimit (limit : Int) : Nat :=
  if limit = 0 then usualSteps else limit.toNat

end ChatFlow

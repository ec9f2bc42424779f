import ChatFlow.Failure
import ChatFlow.Trigger

/-!
# Flows

The flows that channels offer, with their nodes and edges. A flow is offered if it is active and
published; of several flows that a message starts, the one of the highest priority is taken, and of
those the one that was added first. Publishing a flow checks its graph.
-/

namespace ChatFlow

/-- A flow. -/
structure Flow where
  id : String
  channelId : Option String
  trigger : Trigger
  priority : Int
  isActive : Bool
  isPublished : Bool
  deriving DecidableEq, Repr

/-- Whether a message text starts the flow. Only keywords look at the text: one that is null or
counts as absent is empty to them, and one that is no text is none they can read. -/
def Flow.isStartedBy (flow : Flow) (text : Value) : Except Failure Bool :=
  match flow.trigger, text.orElse (.text "") with
  | .keyword keywords, .text s => .ok ((Trigger.keyword keywords).isStartedBy s)
  | .keyword _, other => .error (.textOfKind other.kindName)
  | trigger, _ => .ok (trigger.isStartedBy "")

/-- The first flow that a message text starts. -/
def firstStarted? (text : Value) : List Flow → Except Failure (Option Flow)
  | [] => .ok none
  | flow :: rest => do
    if ← flow.isStartedBy text then return some flow else firstStarted? text rest

/-- The flows and, with the ids of their flows, the nodes and edges, in the order in which they were
added. -/
structure Flows where
  flows : List Flow
  nodes : List (String × FlowNode)
  edges : List (String × FlowEdge)
  deriving Repr

namespace Flows

/-- No flows. -/
def empty : Flows := ⟨[], [], []⟩

/-- The flow of an id. -/
def get? (store : Flows) (id : String) : Option Flow :=
  store.flows.find? (·.id == id)

/-- The nodes and edges of a flow, the edges by their rank. -/
def graphOf (store : Flows) (id : String) : FlowGraph :=
  ⟨(store.nodes.filter (·.1 == id)).map (·.2),
   ((store.edges.filter (·.1 == id)).map (·.2)).mergeSort fun a b => decide (a.rank ≤ b.rank)⟩

/-- The graph of a flow, if there is such a flow. -/
def load? (store : Flows) (id : String) : Option FlowGraph :=
  (store.get? id).map fun _ => store.graphOf id

/-- The flows that a channel offers, by falling priority. -/
def offered (store : Flows) (channel : Option String) : List Flow :=
  (store.flows.filter fun flow =>
    flow.channelId == channel && flow.isActive && flow.isPublished).mergeSort
      fun a b => decide (b.priority ≤ a.priority)

/-- Adds a flow with its nodes and edges. -/
def add (store : Flows) (flow : Flow) (graph : FlowGraph) : Flows :=
  ⟨store.flows ++ [flow], store.nodes ++ graph.nodes.map (flow.id, ·),
   store.edges ++ graph.edges.map (flow.id, ·)⟩

/-- Changes the node of an id. -/
def changeNode (store : Flows) (id : String) (change : FlowNode → FlowNode) : Flows :=
  { store with
    nodes := store.nodes.map fun (flow, node) =>
      (flow, if node.id == id then change node else node) }

/-- Deletes the node of an id. -/
def deleteNode (store : Flows) (id : String) : Flows :=
  { store with nodes := store.nodes.filter (·.2.id != id) }

/-- Deletes the edges out of a node. -/
def deleteEdges (store : Flows) (source : String) : Flows :=
  { store with edges := store.edges.filter (·.2.source != source) }

/-- Deletes a flow with its nodes and edges. -/
def deleteFlow (store : Flows) (id : String) : Flows :=
  ⟨store.flows.filter (·.id != id), store.nodes.filter (·.1 != id),
   store.edges.filter (·.1 != id)⟩

/-- Publishes a flow, or withdraws it. A flow that has defects is not published, but can always be
withdrawn. -/
def publish (store : Flows) (id : String) (published : Bool) :
    Except Failure (Option Flow × Flows) :=
  match store.get? id with
  | none => .ok (none, store)
  | some flow =>
    let defects := if published then (store.graphOf id).defects else []
    if defects.isEmpty then
      let after := { flow with isActive := published, isPublished := published }
      .ok (some after, { store with
        flows := store.flows.map fun other => if other.id == id then after else other })
    else .error (.unpublishable id defects)

end Flows

end ChatFlow

import ChatFlow.Value.Basic

/-!
# Graphs of nodes and edges

A flow is walked along its edges. The edges of a node are tried in the order in which they are
listed. A node that is left by a handle takes the first edge that bears the handle; one that is left
without takes its first edge without a label, or else its first edge.
-/

namespace ChatFlow

/-- A node of a flow. Its type is kept as it was stored: it may be one that is not known. -/
structure FlowNode where
  id : String
  type : String
  config : Value
  deriving Repr

/-- An edge between two nodes. The handle tells on which way out of its source it lies. -/
structure FlowEdge where
  source : String
  target : String
  handle : Option String
  /-- Where the edge stands among the edges of its flow. -/
  rank : Int
  deriving DecidableEq, Repr

/-- Whether an edge bears no label; an empty one counts as none. -/
def FlowEdge.isUnlabelled (edge : FlowEdge) : Bool :=
  edge.handle.all (·.isEmpty)

/-- The nodes and edges of a flow. -/
structure FlowGraph where
  nodes : List FlowNode
  edges : List FlowEdge
  deriving Repr

namespace FlowGraph

/-- The node of an id; of several, the last. -/
def node? (graph : FlowGraph) (id : String) : Option FlowNode :=
  graph.nodes.reverse.find? (·.id == id)

/-- The node that a flow begins with. -/
def trigger? (graph : FlowGraph) : Option FlowNode :=
  graph.nodes.find? (·.type == "trigger")

/-- The edges out of a node, in order. -/
def outgoing (graph : FlowGraph) (id : String) : List FlowEdge :=
  graph.edges.filter (·.source == id)

/-- The first edge out of a node, whatever its handle. -/
def firstEdge? (graph : FlowGraph) (id : String) : Option FlowEdge :=
  (graph.outgoing id).head?

/-- The edge by which a node is left, with a handle or without. -/
def nextEdge? (graph : FlowGraph) (id : String) : Option String → Option FlowEdge
  | some handle => (graph.outgoing id).find? (·.handle == some handle)
  | none => ((graph.outgoing id).find? (·.isUnlabelled)).or (graph.firstEdge? id)

end FlowGraph

end ChatFlow

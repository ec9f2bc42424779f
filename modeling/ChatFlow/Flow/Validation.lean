import ChatFlow.Config.Node
import ChatFlow.Config.Unknown
import ChatFlow.Flow.Graph

/-!
# Checking a flow before it is published

A flow may be published if it has one trigger with a way out, its nodes are of known types with
configurations that can be read and have no unknown keys, its edges join nodes that exist, and every
edge can be chosen: it bears a handle that its source can be left by, or none if its source does not
branch, and then it is the only edge out of it.

`FlowGraph.defects` lists what is wrong, in the order in which an editor shows it.
-/

namespace ChatFlow

/-- What is wrong with a flow. -/
inductive FlowDefect where
  | triggerCount (count : Nat)
  | unknownType (node type : String)
  | unknownKey (node type key : String)
  | badConfig (node type : String) (problem : Problem)
  | danglingEdge (source target : String)
  | edgeAfterEnd (node : String)
  | deadTrigger (node : String)
  | uselessHandle (node type handle : String)
  | crowded (node type : String) (count : Nat)
  | impossibleHandle (node type : String) (handle : Option String) (allowed : List String)
  deriving DecidableEq, Repr

/-- The text of a defect. -/
def FlowDefect.message : FlowDefect → String
  | .triggerCount count =>
    "Flow must have exactly one trigger node (found " ++ decimalText count ++ ")"
  | .unknownType node type => "Node " ++ node ++ ": unknown node type '" ++ type ++ "'"
  | .unknownKey node type key =>
    "Node " ++ node ++ " (" ++ type ++ "): unknown config key '" ++ key ++ "'"
  | .badConfig node type problem =>
    "Node " ++ node ++ " (" ++ type ++ "): " ++ problem.location ++ ": "
      ++ problem.complaint.message
  | .danglingEdge source target =>
    "Edge " ++ source ++ " -> " ++ target ++ " references a missing node"
  | .edgeAfterEnd node => "Node " ++ node ++ " (end): end nodes cannot have outgoing edges"
  | .deadTrigger node => "Node " ++ node ++ " (trigger): trigger node has no outgoing edge"
  | .uselessHandle node type handle =>
    "Node " ++ node ++ " (" ++ type ++ "): does not branch, edge handle '" ++ handle
      ++ "' is never selected"
  | .crowded node type count =>
    "Node " ++ node ++ " (" ++ type ++ "): has " ++ decimalText count
      ++ " outgoing edges, only the first is followed"
  | .impossibleHandle node type handle allowed =>
    "Node " ++ node ++ " (" ++ type ++ "): edge handle '" ++ handle.getD "None"
      ++ "' is not one of " ++ quotedList allowed

namespace FlowGraph

/-- Whether a node of the id exists. -/
def hasNode (graph : FlowGraph) (id : String) : Bool :=
  graph.nodes.any (·.id == id)

/-- Whether both ends of an edge exist. -/
def joinsNodes (graph : FlowGraph) (edge : FlowEdge) : Bool :=
  graph.hasNode edge.source && graph.hasNode edge.target

/-- What is wrong with the number of triggers. -/
def triggerDefects (graph : FlowGraph) : List FlowDefect :=
  let count := graph.nodes.countP (·.type == "trigger")
  if count = 1 then [] else [.triggerCount count]

end FlowGraph

/-- What a node does, if its type is known and its configuration can be read. -/
def FlowNode.configured? (node : FlowNode) : Option NodeConfig :=
  (NodeType.ofName? node.type).bind fun type => (type.configure node.config).toOption

/-- What is wrong with the type and the configuration of a node. -/
def FlowNode.defects (node : FlowNode) : List FlowDefect :=
  match NodeType.ofName? node.type with
  | none => [.unknownType node.id node.type]
  | some type =>
    (unknownKeys type.fields "" (givenConfig node.config)).map (.unknownKey node.id node.type) ++
      match type.readConfig node.config with
      | .ok _ => []
      | .error report => report.problems.map (.badConfig node.id node.type)

namespace FlowGraph

/-- What is wrong with the edges as such. -/
def edgeDefects (graph : FlowGraph) : List FlowDefect :=
  (graph.edges.filter (!graph.joinsNodes ·)).map fun edge => .danglingEdge edge.source edge.target

/-- The edges out of a node that lead to a node. -/
def soundEdges (graph : FlowGraph) (id : String) : List FlowEdge :=
  (graph.outgoing id).filter graph.joinsNodes

/-- The configuration that counts for an id: that of the last node of the id that can be read. -/
def configOf? (graph : FlowGraph) (id : String) : Option NodeConfig :=
  (graph.nodes.filter (·.id == id)).reverse.findSome? FlowNode.configured?

/-- What is wrong with the edges out of a node that does not branch. -/
def straightDefects (node : FlowNode) (edges : List FlowEdge) : List FlowDefect :=
  (edges.filterMap fun edge =>
    (presentText? edge.handle).map (FlowDefect.uselessHandle node.id node.type)) ++
  if edges.length > 1 then [.crowded node.id node.type edges.length] else []

/-- What is wrong with the edges out of a node that is left by one of some handles. -/
def branchDefects (node : FlowNode) (allowed : List String) (edges : List FlowEdge) :
    List FlowDefect :=
  (edges.filter fun edge => !edge.handle.any allowed.contains).map fun edge =>
    .impossibleHandle node.id node.type edge.handle (sortedTexts allowed)

/-- The handles that a node of a type can be left by, with the configuration that counts for its id.
It is the configuration of a node of another type only where ids are repeated. -/
def branchesOf : (type : String) → NodeConfig → Option (List String)
  | "loop", _ => some ["loop", "complete"]
  | "condition", .condition rules defaultHandle =>
    (NodeConfig.condition rules defaultHandle).allowedHandles
  | "randomChoice", .randomChoice choices variableName =>
    (NodeConfig.randomChoice choices variableName).allowedHandles
  | _, _ => none

/-- What is wrong with the ways out of a node. -/
def exitDefects (graph : FlowGraph) (node : FlowNode) : List FlowDefect :=
  let edges := graph.soundEdges node.id
  match graph.configOf? node.id with
  | none => []
  | some config =>
    if node.type == "end" then
      if edges.isEmpty then [] else [.edgeAfterEnd node.id]
    else
      (if node.type == "trigger" && edges.isEmpty then [.deadTrigger node.id] else []) ++
        match branchesOf node.type config with
        | none => straightDefects node edges
        | some allowed => branchDefects node allowed edges

/-- All that is wrong with a flow. -/
def defects (graph : FlowGraph) : List FlowDefect :=
  graph.triggerDefects ++ graph.nodes.flatMap FlowNode.defects ++ graph.edgeDefects
    ++ graph.nodes.flatMap graph.exitDefects

end FlowGraph

end ChatFlow

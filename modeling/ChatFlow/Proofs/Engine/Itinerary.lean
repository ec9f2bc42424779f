import ChatFlow.Proofs.Engine.Draft
import ChatFlow.Proofs.Node.Conduct

/-!
# What a walk meets on its way

A `Walk` tells how a walk ended and what it logged. `itinerary` tells what it met, in order: the
nodes whose work was begun, the node at which it had taken too many steps, and the end of an edge
that leads nowhere. It follows the recursion of `walkFrom`. `dispatches` are the nodes whose work
was begun, each with the scene in which it was.

Main statements: `forall_mem_itinerary`, what holds of the nodes of a graph and of the ends of its
edges holds of all that a walk meets; `walkFrom_induct`, what the work of each node keeps, a walk
keeps; `walkFrom_precedes`, a walk leaves the clock alone; `walkFrom_completed` and
`walkFrom_parked`, a walk completes where it began or at a node of its graph, and parks at one that
waits.
-/

namespace ChatFlow

/-- What a walk meets. -/
inductive Waypoint where
  /-- A node whose work was begun. -/
  | visited (node : FlowNode)
  /-- A node that the walk reached after it had taken as many steps as it may. -/
  | halted (node : FlowNode)
  /-- The end of an edge that leads to no node. -/
  | missing (id : String)

/-- The node whose work was begun, if there is one. -/
def Waypoint.visited? : Waypoint → Option FlowNode
  | .visited node => some node
  | .halted _ | .missing _ => none

/-- What a walk meets that begins at a node, if there is one, and takes at most so many steps. -/
def itinerary (graph : FlowGraph) (recipient : Recipient) :
    (steps : Nat) → (next : Option String) → Scene → List Waypoint
  | steps, next, scene =>
    match next.bind graph.node? with
    | none => next.toList.map .missing
    | some node =>
      match steps with
      | 0 => [.halted node]
      | steps + 1 =>
        match (node.act recipient).run.run scene with
        | (.error _, _) => [.visited node]
        | (.ok result, scene) =>
          match result.next with
          | .wait _ _ | .finish => [.visited node]
          | .leave handle =>
            let target := (graph.nextEdge? node.id handle).map (·.target)
            .visited node :: itinerary graph recipient steps target scene

variable {graph : FlowGraph} {recipient : Recipient} {steps : Nat} {next : Option String}
  {scene : Scene}

namespace FlowGraph

/-- A node that is found by an id bears it. -/
theorem node?_id {id : String} {node : FlowNode} (h : graph.node? id = some node) :
    node.id = id := by
  simpa using List.find?_some h

/-- The edges out of a node are those of the graph that begin there. -/
theorem mem_outgoing {id : String} {edge : FlowEdge} :
    edge ∈ graph.outgoing id ↔ edge ∈ graph.edges ∧ edge.source = id := by
  simp [outgoing]

/-- The edge by which a node is left is one of those out of it. -/
theorem mem_outgoing_of_nextEdge? {id : String} {handle : Option String} {edge : FlowEdge}
    (h : graph.nextEdge? id handle = some edge) : edge ∈ graph.outgoing id := by
  cases handle with
  | some handle => exact List.mem_of_find?_eq_some h
  | none =>
    rcases Option.or_eq_some_iff.1 h with hfound | ⟨-, hfirst⟩
    · exact List.mem_of_find?_eq_some hfound
    · exact List.mem_of_mem_head? hfirst

end FlowGraph

/-- **What a walk can meet**: nodes of the graph, and ends of edges that lead nowhere. -/
theorem forall_mem_itinerary {P : Waypoint → Prop}
    (hvisited : ∀ node ∈ graph.nodes, P (.visited node))
    (hhalted : ∀ node ∈ graph.nodes, P (.halted node))
    (hedge : ∀ edge ∈ graph.edges, graph.node? edge.target = none → P (.missing edge.target))
    (hnext : ∀ id, next = some id → graph.node? id = none → P (.missing id)) :
    ∀ point ∈ itinerary graph recipient steps next scene, P point := by
  fun_induction itinerary graph recipient steps next scene with
  | case1 steps next scene hnone =>
    intro point hpoint
    obtain ⟨id, hid, rfl⟩ := List.mem_map.1 hpoint
    obtain rfl : next = some id := by simpa using hid
    exact hnext id rfl hnone
  | case2 next scene node hnode =>
    obtain ⟨id, -, hid⟩ := Option.bind_eq_some_iff.1 hnode
    exact List.forall_mem_singleton.2 (hhalted node (FlowGraph.node?_some hid))
  | case3 next scene node hnode | case4 next scene node hnode | case5 next scene node hnode =>
    obtain ⟨id, -, hid⟩ := Option.bind_eq_some_iff.1 hnode
    exact List.forall_mem_singleton.2 (hvisited node (FlowGraph.node?_some hid))
  | case6 next scene node hnode steps result after hact handle hleave target ih =>
    obtain ⟨id, -, hid⟩ := Option.bind_eq_some_iff.1 hnode
    refine List.forall_mem_cons.2
      ⟨hvisited node (FlowGraph.node?_some hid), ih fun id hid hnone => ?_⟩
    obtain ⟨edge, hfound, rfl⟩ := Option.map_eq_some_iff.1 hid
    exact hedge edge (FlowGraph.mem_outgoing.1 (FlowGraph.mem_outgoing_of_nextEdge? hfound)).1 hnone

/-- The node of whose entry in the log a waypoint tells: a node that was visited, or at which the
walk was halted. -/
def Waypoint.logged? : Waypoint → Option String
  | .visited node | .halted node => some node.id
  | .missing _ => none

/-- The node of whose failure a walk tells. -/
def WalkEnd.failed? : WalkEnd → Option String
  | .failed node _ => some node.id
  | .parked .. | .completed _ => none

/-- **The log of a walk** has an entry for each node that the walk met, in order, but for the node
at which it failed. -/
theorem entries_walkFrom (graph : FlowGraph) (recipient : Recipient) (steps : Nat)
    (next last : Option String) (scene : Scene) :
    (walkFrom graph recipient steps next last scene).entries.map (·.node) ++
        (walkFrom graph recipient steps next last scene).ending.failed?.toList.map some =
      ((itinerary graph recipient steps next scene).filterMap Waypoint.logged?).map some := by
  fun_induction walkFrom graph recipient steps next last scene with
  | case1 steps next last scene hnone =>
    rw [itinerary, hnone]
    cases next <;> rfl
  | case2 next last scene node hnode =>
    rw [itinerary, hnode]
    rfl
  | case3 next last scene node hnode steps cause after hact =>
    rw [itinerary, hnode]
    simp only [hact]
    rfl
  | case4 next last scene node hnode steps result after hact entry reason resumeAt hwait =>
    rw [itinerary, hnode]
    simp only [hact, hwait]
    rfl
  | case5 next last scene node hnode steps result after hact entry hfinish =>
    rw [itinerary, hnode]
    simp only [hact, hfinish]
    rfl
  | case6 next last scene node hnode steps result after hact entry handle hleave target rest ih =>
    rw [itinerary, hnode]
    simp only [hact, hleave, List.map_cons, List.cons_append, List.filterMap_cons]
    exact congrArg (some node.id :: ·) ih

/-- A node whose work is begun, and the scene in which it is. -/
structure Dispatch where
  node : FlowNode
  before : Scene

/-- The nodes whose work a walk begins, in order, each with the scene in which it does. -/
def dispatches (graph : FlowGraph) (recipient : Recipient) :
    (steps : Nat) → (next : Option String) → Scene → List Dispatch
  | steps, next, scene =>
    match next.bind graph.node? with
    | none => []
    | some node =>
      match steps with
      | 0 => []
      | steps + 1 =>
        ⟨node, scene⟩ ::
          match (node.act recipient).run.run scene with
          | (.error _, _) => []
          | (.ok result, after) =>
            match result.next with
            | .wait _ _ | .finish => []
            | .leave handle =>
              dispatches graph recipient steps ((graph.nextEdge? node.id handle).map (·.target))
                after

/-- These are the nodes that the walk visits. -/
theorem map_node_dispatches (graph : FlowGraph) (recipient : Recipient) (steps : Nat)
    (next : Option String) (scene : Scene) :
    (dispatches graph recipient steps next scene).map Dispatch.node =
      (itinerary graph recipient steps next scene).filterMap Waypoint.visited? := by
  fun_induction itinerary graph recipient steps next scene with
  | case1 steps next scene hnone =>
    rw [dispatches, hnone]
    cases next <;> rfl
  | case2 next scene node hnode =>
    rw [dispatches, hnode]
    rfl
  | case3 next scene node hnode steps cause after hact =>
    rw [dispatches, hnode]
    simp only [hact]
    rfl
  | case4 next scene node hnode steps result after hact reason resumeAt hwait =>
    rw [dispatches, hnode]
    simp only [hact, hwait]
    rfl
  | case5 next scene node hnode steps result after hact hfinish =>
    rw [dispatches, hnode]
    simp only [hact, hfinish]
    rfl
  | case6 next scene node hnode steps result after hact handle hleave target ih =>
    rw [dispatches, hnode]
    simp only [hact, hleave, List.map_cons, List.filterMap_cons]
    exact congrArg (node :: ·) ih

/-- **The induction over a walk.** A relation holds between what a walk dispatches and the scenes in
which it begins and ends, if it holds where nothing is dispatched and the work of each node keeps
it. -/
theorem walkFrom_induct {R : List Dispatch → Scene → Scene → Prop}
    (hstops : ∀ scene, R [] scene scene)
    (hgoes : ∀ {node before result after rest last},
      (FlowNode.act recipient node).run.run before = (result, after) → R rest after last →
      R (⟨node, before⟩ :: rest) before last)
    (steps : Nat) (next last : Option String) (scene : Scene) :
    R (dispatches graph recipient steps next scene) scene
      (walkFrom graph recipient steps next last scene).scene := by
  fun_induction walkFrom graph recipient steps next last scene with
  | case1 steps next last scene hnone =>
    rw [dispatches, hnone]
    exact hstops scene
  | case2 next last scene node hnode =>
    rw [dispatches, hnode]
    exact hstops scene
  | case3 next last scene node hnode steps cause after hact =>
    rw [dispatches, hnode]
    simp only [hact]
    exact hgoes hact (hstops after)
  | case4 next last scene node hnode steps result after hact entry reason resumeAt hwait =>
    rw [dispatches, hnode]
    simp only [hact, hwait]
    exact hgoes hact (hstops after)
  | case5 next last scene node hnode steps result after hact entry hfinish =>
    rw [dispatches, hnode]
    simp only [hact, hfinish]
    exact hgoes hact (hstops after)
  | case6 next last scene node hnode steps result after hact entry handle hleave target rest ih =>
    rw [dispatches, hnode]
    simp only [hact, hleave]
    exact hgoes hact ih

/-- A walk ends in a scene that can come of the one in which it began. -/
theorem walkFrom_precedes (graph : FlowGraph) (recipient : Recipient) (steps : Nat)
    (next last : Option String) (scene : Scene) :
    scene.Precedes (walkFrom graph recipient steps next last scene).scene :=
  walkFrom_induct (R := fun _ before after => before.Precedes after) .refl
    (fun hact hrest => (FlowNode.act_precedes recipient hact).trans hrest) steps next last scene

/-- A walk that completes leaves its execution where it stood, or at a node of its graph. -/
theorem walkFrom_completed {stood last : Option String}
    (h : (walkFrom graph recipient steps next stood scene).ending = .completed last) :
    last = stood ∨ ∃ node ∈ graph.nodes, last = some node.id := by
  fun_induction walkFrom graph recipient steps next stood scene with
  | case1 | case2 =>
    cases h
    exact .inl rfl
  | case3 | case4 => cases h
  | case5 next stood scene node hnode steps result after hact entry hfinish =>
    cases h
    obtain ⟨id, -, hid⟩ := Option.bind_eq_some_iff.1 hnode
    exact .inr ⟨node, FlowGraph.node?_some hid, rfl⟩
  | case6 next stood scene node hnode steps result after hact entry handle hleave target rest ih =>
    obtain ⟨id, -, hid⟩ := Option.bind_eq_some_iff.1 hnode
    rcases ih h with rfl | hlater
    · exact .inr ⟨node, FlowGraph.node?_some hid, rfl⟩
    · exact .inr hlater

/-- A walk that parks does so at a node of its graph whose work ended in this wait. -/
theorem walkFrom_parked {last : Option String} {id reason : String}
    {resumeAt : Option ZonedMoment}
    (h : (walkFrom graph recipient steps next last scene).ending = .parked id reason resumeAt) :
    ∃ node ∈ graph.nodes, graph.node? id = some node ∧ ∃ before result after,
      (node.act recipient).run.run before = (.ok result, after) ∧
      result.next = .wait reason resumeAt := by
  fun_induction walkFrom graph recipient steps next last scene with
  | case1 | case2 | case3 | case5 => cases h
  | case4 next last scene node hnode steps result after hact entry reason resumeAt hwait =>
    cases h
    obtain ⟨id, -, hid⟩ := Option.bind_eq_some_iff.1 hnode
    have hown : graph.node? node.id = some node := by rw [FlowGraph.node?_id hid, hid]
    exact ⟨node, FlowGraph.node?_some hid, hown, scene, result, after, hact, hwait⟩
  | case6 next last scene node hnode steps result after hact entry handle hleave target rest ih =>
    exact ih h

/-- How a walk ends at a node that it does not leave. -/
def Dispatch.ending? (recipient : Recipient) (dispatch : Dispatch) : Option WalkEnd :=
  match (dispatch.node.act recipient).run.run dispatch.before with
  | (.error cause, _) => some (.failed dispatch.node cause)
  | (.ok result, _) =>
    match result.next with
    | .wait reason resumeAt => some (.parked dispatch.node.id reason resumeAt)
    | .finish => some (.completed (some dispatch.node.id))
    | .leave _ => none

/-- A node is dispatched in a scene that came of the one in which the walk began. If the walk does
not leave the node, it ends there. -/
theorem dispatches_spec (last : Option String) {dispatch : Dispatch}
    (h : dispatch ∈ dispatches graph recipient steps next scene) :
    scene.Precedes dispatch.before ∧ ∀ ending, dispatch.ending? recipient = some ending →
      (walkFrom graph recipient steps next last scene).ending = ending := by
  fun_induction walkFrom graph recipient steps next last scene with
  | case1 steps next last scene hnone =>
    rw [dispatches, hnone] at h
    cases h
  | case2 next last scene node hnode =>
    rw [dispatches, hnode] at h
    cases h
  | case3 next last scene node hnode steps cause after hact =>
    rw [dispatches, hnode] at h
    simp only [hact, List.mem_singleton] at h
    subst h
    refine ⟨.refl scene, fun ending hending => ?_⟩
    simpa only [Dispatch.ending?, hact, Option.some.injEq] using hending
  | case4 next last scene node hnode steps result after hact entry reason resumeAt hwait =>
    rw [dispatches, hnode] at h
    simp only [hact, hwait, List.mem_singleton] at h
    subst h
    refine ⟨.refl scene, fun ending hending => ?_⟩
    simpa only [Dispatch.ending?, hact, hwait, Option.some.injEq] using hending
  | case5 next last scene node hnode steps result after hact entry hfinish =>
    rw [dispatches, hnode] at h
    simp only [hact, hfinish, List.mem_singleton] at h
    subst h
    refine ⟨.refl scene, fun ending hending => ?_⟩
    simpa only [Dispatch.ending?, hact, hfinish, Option.some.injEq] using hending
  | case6 next last scene node hnode steps result after hact entry handle hleave target rest ih =>
    rw [dispatches, hnode] at h
    simp only [hact, hleave, List.mem_cons] at h
    rcases h with rfl | hlater
    · refine ⟨.refl scene, fun ending hending => ?_⟩
      simp only [Dispatch.ending?, hact, hleave] at hending
      cases hending
    · obtain ⟨hprecedes, hends⟩ := ih hlater
      exact ⟨(FlowNode.act_precedes recipient hact).trans hprecedes, hends⟩

end ChatFlow

import Mathlib.Data.List.Forall2
import ChatFlow.Proofs.Engine.Redrawn

/-!
# Detours by a node of an unknown type

A node of an unknown type does nothing and is left by its usual edge. So an edge may as well make a
detour by such a node: it leads to the node, and from there an edge without a label leads to where
it led (`FlowGraph.Detours`). The edges of the graph keep their sources, handles and places, so
every node is left by the edges by which it was left, of which one leads elsewhere
(`Detours.nextEdge?_turns`).

Main statement: `Detours.walk_adds`, a walk over the detour that stays within its steps is the walk
without it, but for the entries of the new node.
-/

namespace ChatFlow

namespace FlowGraph

/-- Whether a graph is another with a detour: an edge leads to a further node of an unknown type,
and from there an edge without a label to where it led. The new edge may stand anywhere among the
edges, and the new node anywhere among the nodes. Nothing in the graph bears the id of the new node.
-/
structure Detours (node : FlowNode) (edge : FlowEdge) (graph graph' : FlowGraph) : Prop where
  unknown : NodeType.ofName? node.type = none
  leads : ∃ target ∈ graph.nodes, target.id = edge.target
  unused : ∀ other ∈ graph.edges, other.target ≠ node.id
  nodes : graph'.nodes.filter (·.id != node.id) = graph.nodes
  added : graph'.nodes.filter (·.id == node.id) = [node]
  edges : ∃ before after, graph.edges = before ++ edge :: after ∧
    graph'.edges.filter (·.source != node.id) = before ++ { edge with target := node.id } :: after
  link : ∃ link : FlowEdge, link.isUnlabelled = true ∧ link.target = edge.target ∧
    graph'.edges.filter (·.source == node.id) = [link]

namespace Detours

variable {node : FlowNode} {edge : FlowEdge} {graph graph' : FlowGraph}
  (h : graph.Detours node edge graph')
include h

/-! ## Nodes -/

/-- The new node bears an id of its own. -/
theorem id_ne {other : FlowNode} (hother : other ∈ graph.nodes) : other.id ≠ node.id := by
  rw [← h.nodes] at hother
  simpa using (List.mem_filter.1 hother).2

/-- The ids of the graph name the same nodes. -/
theorem node?_of_ne {id : String} (hid : id ≠ node.id) : graph'.node? id = graph.node? id := by
  unfold node?
  rw [← h.nodes, ← List.filter_reverse, List.find?_filter]
  refine congrArg (graph'.nodes.reverse.find? ·) (funext fun other => ?_)
  by_cases hsame : other.id = id <;> simp [hsame, hid]

theorem bind_node? {next : Option String} (hne : next ≠ some node.id) :
    next.bind graph'.node? = next.bind graph.node? :=
  Option.bind_congr fun _ hid => h.node?_of_ne fun hsame => hne (hsame ▸ hid)

/-- The new node is found by its id. -/
theorem node?_self : graph'.node? node.id = some node := by
  unfold node?
  rw [← List.head?_filter, List.filter_reverse, h.added]
  rfl

/-- The edge leads to a node, in either graph. -/
theorem exists_node?_target :
    ∃ target, graph.node? edge.target = some target ∧ graph'.node? edge.target = some target := by
  obtain ⟨found, hfound, hid⟩ := h.leads
  obtain ⟨target, htarget⟩ : ∃ target, graph.node? edge.target = some target :=
    Option.isSome_iff_exists.1 (List.find?_isSome.2
      ⟨found, List.mem_reverse.2 hfound, by simpa using hid⟩)
  refine ⟨target, htarget, ?_⟩
  rw [h.node?_of_ne (hid ▸ h.id_ne hfound), htarget]

/-- The trigger stays: the new node is none. -/
theorem trigger?_eq : graph'.trigger? = graph.trigger? := by
  unfold trigger?
  rw [← h.nodes, List.find?_filter, ← List.head?_filter, ← List.head?_filter]
  refine congrArg List.head? (List.filter_congr fun other hother => ?_)
  by_cases hid : other.id = node.id
  · have hadded : other ∈ graph'.nodes.filter (·.id == node.id) :=
      List.mem_filter.2 ⟨hother, beq_iff_eq.2 hid⟩
    rw [h.added, List.mem_singleton] at hadded
    have ht : other.type ≠ "trigger" := by
      intro ht
      have hunknown := h.unknown
      rw [← hadded, ht] at hunknown
      cases hunknown
    simp [ht]
  · have hne : (other.id != node.id) = true := bne_iff_ne.2 hid
    simp only [hne, true_and, Bool.decide_eq_true]

/-! ## Edges -/

/-- The new node is left by the new edge. -/
theorem nextEdge?_self : (graph'.nextEdge? node.id none).map (·.target) = some edge.target := by
  obtain ⟨link, hunlabelled, htarget, houtgoing⟩ := h.link
  rw [nextEdge?, outgoing, houtgoing, List.find?_cons_of_pos hunlabelled, Option.some_or,
    Option.map_some, htarget]

end Detours

/-- Where an edge leads that may make a detour: to where it led, or to the new node. -/
inductive Turns (id target : String) : Option String → Option String → Prop where
  | same (next : Option String) (hne : next ≠ some id) : Turns id target next next
  | detour : Turns id target (some target) (some id)

/-- Whether an edge is another that may make a detour. -/
structure TurnsEdge (id target : String) (edge edge' : FlowEdge) : Prop where
  source : edge'.source = edge.source
  handle : edge'.handle = edge.handle
  target : Turns id target (some edge.target) (some edge'.target)

/-- Whether edges that are found are others that may make a detour. -/
theorem turns_target {id target : String} {found found' : Option FlowEdge}
    (h : Option.Rel (TurnsEdge id target) found found') :
    Turns id target (found.map (·.target)) (found'.map (·.target)) := by
  cases h with
  | none => exact .same none (Option.some_ne_none id).symm
  | some hedge => exact hedge.target

/-- Of edges that may make a detour, the same is found. -/
theorem find?_turns {id target : String} {p : FlowEdge → Bool} {edges edges' : List FlowEdge}
    (h : List.Forall₂ (TurnsEdge id target) edges edges')
    (hp : ∀ edge edge', TurnsEdge id target edge edge' → p edge' = p edge) :
    Option.Rel (TurnsEdge id target) (edges.find? p) (edges'.find? p) := by
  induction h with
  | nil => exact .none
  | cons hedge _ ih =>
    rw [List.find?_cons, List.find?_cons, hp _ _ hedge]
    split
    · exact .some hedge
    · exact ih

namespace Detours

variable {node : FlowNode} {edge : FlowEdge} {graph graph' : FlowGraph}
  (h : graph.Detours node edge graph')
include h

/-- The edges out of a node are the same, but that one may make the detour. -/
theorem outgoing_turns {id : String} (hid : id ≠ node.id) :
    List.Forall₂ (TurnsEdge node.id edge.target) (graph.outgoing id) (graph'.outgoing id) := by
  obtain ⟨before, after, hedges, hedges'⟩ := h.edges
  have hsame : ∀ other ∈ graph.edges, TurnsEdge node.id edge.target other other :=
    fun other hother => ⟨rfl, rfl, .same _ fun ht => h.unused other hother (Option.some.inj ht)⟩
  have houtgoing : graph'.outgoing id =
      (graph'.edges.filter (·.source != node.id)).filter (·.source == id) := by
    rw [outgoing, List.filter_filter]
    refine List.filter_congr fun other _ => ?_
    by_cases hs : other.source = id <;> simp [hs, hid]
  rw [houtgoing, hedges', outgoing]
  rw [hedges] at hsame ⊢
  have hfilter : ∀ other other', TurnsEdge node.id edge.target other other' →
      ((other.source == id) = true ↔ (other'.source == id) = true) :=
    fun other other' hturns => by rw [hturns.source]
  refine List.rel_filter (fun other other' => hfilter other other') ?_
  refine List.rel_append (List.forall₂_same.2 fun other hother =>
    hsame other (List.mem_append_left _ hother)) (.cons ⟨rfl, rfl, .detour⟩ ?_)
  exact List.forall₂_same.2 fun other hother =>
    hsame other (List.mem_append_right _ (List.mem_cons_of_mem _ hother))

/-- The first edge out of a node is the same, or makes the detour. -/
theorem firstEdge?_turns {id : String} (hid : id ≠ node.id) :
    Option.Rel (TurnsEdge node.id edge.target) (graph.firstEdge? id) (graph'.firstEdge? id) := by
  have houtgoing := h.outgoing_turns hid
  unfold firstEdge?
  generalize graph.outgoing id = edges at houtgoing ⊢
  generalize graph'.outgoing id = edges' at houtgoing ⊢
  cases houtgoing with
  | nil => exact .none
  | cons hedge _ => exact .some hedge

/-- **A node is left by the same edge**, or by the one that makes the detour. -/
theorem nextEdge?_turns {id : String} (hid : id ≠ node.id) (handle : Option String) :
    Option.Rel (TurnsEdge node.id edge.target) (graph.nextEdge? id handle)
      (graph'.nextEdge? id handle) := by
  have houtgoing := h.outgoing_turns hid
  cases handle with
  | some handle =>
    exact find?_turns houtgoing fun edge edge' hturns => by rw [hturns.handle]
  | none =>
    have hfound := find?_turns (p := FlowEdge.isUnlabelled) houtgoing
      fun edge edge' hturns => by rw [FlowEdge.isUnlabelled, FlowEdge.isUnlabelled, hturns.handle]
    unfold nextEdge?
    generalize (graph.outgoing id).find? FlowEdge.isUnlabelled = found at hfound ⊢
    generalize (graph'.outgoing id).find? FlowEdge.isUnlabelled = found' at hfound ⊢
    cases hfound with
    | none => exact h.firstEdge?_turns hid
    | some hedge => exact .some hedge

end Detours

end FlowGraph

/-! ## Walks -/

/-- The entry of a node of an unknown type. -/
def FlowNode.passedEntry (node : FlowNode) : LogEntry :=
  node.entry (NodeResult.logged ⟨.leave none, unknownTypeNotes node.type⟩)

/-- A node of an unknown type does nothing. -/
theorem FlowNode.act_of_unknown {node : FlowNode} (h : NodeType.ofName? node.type = none)
    (recipient : Recipient) (scene : Scene) :
    (node.act recipient).run.run scene =
      (.ok ⟨.leave none, unknownTypeNotes node.type⟩, scene) := by
  unfold act
  rw [h]
  rfl

/-- What a detour may do otherwise: walks are compared that take no more steps than they may, and
the new node makes its entries. -/
def Leeway.detour (node : FlowNode) : Leeway where
  Compares points := ∀ halted, Waypoint.halted halted ∉ points
  Extra entry := entry = node.passedEntry

namespace FlowGraph.Detours

variable {node : FlowNode} {edge : FlowEdge} {graph graph' : FlowGraph} {recipient : Recipient}
  {next next' last last' : Option String} {steps steps' : Nat} {scene : Scene}

/-- A walk that has nowhere to go ends in either graph. -/
theorem walk_adds_of_none (h : graph.Detours node edge graph')
    (hturns : Turns node.id edge.target next next') (hnone : next'.bind graph'.node? = none)
    (hlast : last' = last) :
    (walkFrom graph recipient steps next last scene).Adds (Leeway.detour node).Extra
      (walkFrom graph' recipient steps' next' last' scene) := by
  cases hturns with
  | detour =>
    rw [Option.bind_some, h.node?_self] at hnone
    cases hnone
  | same next hne =>
    have hnone' : next.bind graph.node? = none := by rw [← h.bind_node? hne, hnone]
    rw [walkFrom, walkFrom, hnone, hnone', hlast]
    exact ⟨rfl, rfl, .nil⟩

/-- **A walk over a detour is the walk without it**, but for the entries of the new node. The walk
without it needs no more steps. While the walk is at the new node, the last node that it left is not
the same, but from there it comes to a node and leaves that. -/
theorem walk_adds (h : graph.Detours node edge graph')
    (hturns : Turns node.id edge.target next next')
    (hlast : last' = last ∨ ∃ met, next'.bind graph'.node? = some met) (hsteps : steps' ≤ steps)
    (hwithin : (Leeway.detour node).Compares (itinerary graph' recipient steps' next' scene)) :
    (walkFrom graph recipient steps next last scene).Adds (Leeway.detour node).Extra
      (walkFrom graph' recipient steps' next' last' scene) := by
  induction steps' generalizing next next' last last' steps scene with
  | zero =>
    cases hnode' : next'.bind graph'.node? with
    | some met =>
      rw [itinerary, hnode'] at hwithin
      exact absurd (List.mem_singleton_self _) (hwithin met)
    | none => exact h.walk_adds_of_none hturns hnode' (hlast.resolve_right (by simp [hnode']))
  | succ steps' ih =>
    cases hnode' : next'.bind graph'.node? with
    | none => exact h.walk_adds_of_none hturns hnode' (hlast.resolve_right (by simp [hnode']))
    | some met =>
    rw [itinerary, hnode'] at hwithin
    cases hturns with
    | detour =>
      -- the walk without the detour stays where it is
      obtain rfl : node = met := by
        rw [Option.bind_some, h.node?_self] at hnode'
        exact Option.some.inj hnode'
      simp only [FlowNode.act_of_unknown h.unknown, h.nextEdge?_self] at hwithin
      obtain ⟨target, hfound, hfound'⟩ := h.exists_node?_target
      have hne : some edge.target ≠ some node.id := by
        intro hid
        rw [← FlowGraph.node?_id hfound] at hid
        exact h.id_ne (FlowGraph.node?_some hfound) (Option.some.inj hid)
      let rest := walkFrom graph' recipient steps' (some edge.target) (some node.id) scene
      have hrest : (walkFrom graph recipient steps (some edge.target) last scene).Adds
          (Leeway.detour node).Extra rest :=
        ih (.same _ hne) (.inr ⟨target, hfound'⟩) (Nat.le_of_succ_le hsteps)
          fun halted hmem => hwithin halted (List.mem_cons_of_mem _ hmem)
      have hwalk : walkFrom graph' recipient (steps' + 1) (some node.id) last' scene =
          { rest with entries := node.passedEntry :: rest.entries } := by
        rw [walkFrom, hnode']
        simp only [FlowNode.act_of_unknown h.unknown, h.nextEdge?_self]
        rfl
      have hextra : (Leeway.detour node).Extra node.passedEntry := rfl
      rw [hwalk]
      exact ⟨hrest.ending, hrest.scene, .extra hextra hrest.entries⟩
    | same next hne =>
      have hnode : next.bind graph.node? = some met := by rw [← h.bind_node? hne, hnode']
      obtain ⟨id, -, hid⟩ := Option.bind_eq_some_iff.1 hnode
      have hmet : met.id ≠ node.id := h.id_ne (FlowGraph.node?_some hid)
      cases steps with
      | zero => exact absurd hsteps (Nat.not_succ_le_zero steps')
      | succ steps =>
      rw [walkFrom, walkFrom, hnode, hnode']
      rcases hact : (met.act recipient).run.run scene with ⟨cause | result, after⟩
      · simp only [hact]
        exact ⟨rfl, rfl, .nil⟩
      · simp only [hact] at hwithin ⊢
        cases hnext : result.next with
        | wait reason resumeAt => exact ⟨rfl, rfl, .refl _⟩
        | finish => exact ⟨rfl, rfl, .refl _⟩
        | leave handle =>
          simp only [hnext] at hwithin
          have hrest : (walkFrom graph recipient steps
              ((graph.nextEdge? met.id handle).map (·.target)) (some met.id) after).Adds
              (Leeway.detour node).Extra
              (walkFrom graph' recipient steps'
                ((graph'.nextEdge? met.id handle).map (·.target)) (some met.id) after) :=
            ih (turns_target (h.nextEdge?_turns hmet handle)) (.inl rfl)
              (Nat.le_of_succ_le_succ hsteps)
              fun halted hmem => hwithin halted (List.mem_cons_of_mem _ hmem)
          exact ⟨hrest.ending, hrest.scene, .keep _ hrest.entries⟩

end FlowGraph.Detours

end ChatFlow

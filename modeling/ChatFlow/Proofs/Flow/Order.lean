import Mathlib.Data.List.Find
import ChatFlow.Proofs.Engine.Itinerary
import ChatFlow.Store.Flows

/-!
# The order in which flows are stored

Edges are sorted by their rank and flows by their priority, and of equals the one that was added
first comes first. So the order of addition counts if there are equals: edges of a flow with one
rank, flows of a channel with one priority, nodes of a flow with one id, or several triggers.
`Flows.IsUnambiguous` says that there are none.

Main statements: without equals, flows that were added in another order (`Flows.Reorders`) are
offered in the same order (`Flows.Reorders.offered_eq`), and their graphs have the same edges in the
same order and the same node for every id (`Flows.Reorders.load?_alike`); walks in such graphs are
the same (`FlowGraph.Alike.walkFrom_eq`).
-/

namespace ChatFlow

/-! ## Sorting -/

namespace Flow

/-- Flows are sorted by falling priority. -/
def ranksBefore (a b : Flow) : Bool := decide (b.priority ≤ a.priority)

theorem ranksBefore_trans (a b c : Flow) (hab : a.ranksBefore b = true)
    (hbc : b.ranksBefore c = true) : a.ranksBefore c = true := by
  simp only [ranksBefore, decide_eq_true_eq] at hab hbc ⊢
  omega

theorem ranksBefore_total (a b : Flow) : (a.ranksBefore b || b.ranksBefore a) = true := by
  simp only [ranksBefore, Bool.or_eq_true, decide_eq_true_eq]
  omega

end Flow

namespace FlowEdge

/-- Edges are sorted by their rank. -/
def ranksBefore (a b : FlowEdge) : Bool := decide (a.rank ≤ b.rank)

theorem ranksBefore_trans (a b c : FlowEdge) (hab : a.ranksBefore b = true)
    (hbc : b.ranksBefore c = true) : a.ranksBefore c = true := by
  simp only [ranksBefore, decide_eq_true_eq] at hab hbc ⊢
  omega

theorem ranksBefore_total (a b : FlowEdge) : (a.ranksBefore b || b.ranksBefore a) = true := by
  simp only [ranksBefore, Bool.or_eq_true, decide_eq_true_eq]
  omega

end FlowEdge

section Sorting

variable {α : Type} {le : α → α → Bool} {l l' : List α}

/-- Lists of the same elements are sorted into the same list if no two elements are equals. -/
theorem mergeSort_eq_of_perm (htrans : ∀ a b c, le a b = true → le b c = true → le a c = true)
    (htotal : ∀ a b, (le a b || le b a) = true) (h : l'.Perm l)
    (hdistinct : ∀ a ∈ l, ∀ b ∈ l, le a b = true → le b a = true → a = b) :
    l'.mergeSort le = l.mergeSort le := by
  have hperm : (l'.mergeSort le).Perm (l.mergeSort le) :=
    (List.mergeSort_perm l' le).trans (h.trans (List.mergeSort_perm l le).symm)
  refine List.Perm.eq_of_pairwise (fun a b ha hb hab hba => ?_)
    (List.pairwise_mergeSort htrans htotal l') (List.pairwise_mergeSort htrans htotal l) hperm
  exact hdistinct a (h.mem_iff.1 (List.mem_mergeSort.1 ha)) b (List.mem_mergeSort.1 hb) hab hba

end Sorting

/-! ## The rows of a store -/

/-- Whether flows are others whose rows were added in another order. -/
structure Flows.Reorders (store store' : Flows) : Prop where
  flows : store'.flows.Perm store.flows
  nodes : store'.nodes.Perm store.nodes
  edges : store'.edges.Perm store.edges

/-- Whether nothing depends on the order in which flows were added: the nodes of a flow bear
distinct ids and only one of them is a trigger, its edges have distinct ranks, and the flows of a
channel have distinct priorities. -/
structure Flows.IsUnambiguous (store : Flows) : Prop where
  nodes : (store.nodes.map fun (flow, node) => (flow, node.id)).Nodup
  triggers : ∀ flow ∈ store.flows, ∀ a b, (flow.id, a) ∈ store.nodes → (flow.id, b) ∈ store.nodes →
    a.type = "trigger" → b.type = "trigger" → a = b
  edges : (store.edges.map fun (flow, edge) => (flow, edge.rank)).Nodup
  flows : (store.flows.map fun flow => (flow.channelId, flow.priority)).Nodup

/-- Whether graphs differ in the order of their nodes only, and the order does not count. -/
structure FlowGraph.Alike (graph graph' : FlowGraph) : Prop where
  edges : graph'.edges = graph.edges
  node? : ∀ id, graph'.node? id = graph.node? id
  trigger? : graph'.trigger? = graph.trigger?

namespace Flows

variable {store store' : Flows} {id : String}

theorem mem_nodes_graphOf {node : FlowNode} :
    node ∈ (store.graphOf id).nodes ↔ (id, node) ∈ store.nodes := by
  simp [graphOf]

/-- Edges of a flow with one rank are one edge. -/
theorem IsUnambiguous.edge_eq (h : store.IsUnambiguous) {a b : FlowEdge}
    (ha : (id, a) ∈ store.edges) (hb : (id, b) ∈ store.edges) (hrank : a.rank = b.rank) : a = b :=
  congrArg Prod.snd (List.inj_on_of_nodup_map h.edges ha hb (congrArg (id, ·) hrank))

/-- Nodes of a flow with one id are one node. -/
theorem IsUnambiguous.node_eq (h : store.IsUnambiguous) {a b : FlowNode}
    (ha : (id, a) ∈ store.nodes) (hb : (id, b) ∈ store.nodes) (hid : a.id = b.id) : a = b :=
  congrArg Prod.snd (List.inj_on_of_nodup_map h.nodes ha hb (congrArg (id, ·) hid))

namespace Reorders

variable (h : store.Reorders store') (hu : store.IsUnambiguous)
include h hu

/-- **Channels offer their flows in the same order**, in whichever order these were added. -/
theorem offered_eq (channel : Option String) : store'.offered channel = store.offered channel := by
  refine mergeSort_eq_of_perm Flow.ranksBefore_trans Flow.ranksBefore_total (h.flows.filter _) ?_
  intro a ha b hb hab hba
  obtain ⟨hstored, hoffered⟩ := List.mem_filter.1 ha
  obtain ⟨hstored', hoffered'⟩ := List.mem_filter.1 hb
  simp only [Bool.and_eq_true, beq_iff_eq] at hoffered hoffered'
  rw [decide_eq_true_eq] at hab hba
  exact List.inj_on_of_nodup_map hu.flows hstored hstored'
    (Prod.ext (hoffered.1.1.trans hoffered'.1.1.symm) (Int.le_antisymm hba hab))

/-- The edges of a flow come in the same order. -/
theorem edges_graphOf (id : String) : (store'.graphOf id).edges = (store.graphOf id).edges := by
  refine mergeSort_eq_of_perm FlowEdge.ranksBefore_trans FlowEdge.ranksBefore_total
    ((h.edges.filter _).map _) ?_
  intro a ha b hb hab hba
  obtain ⟨⟨flow, edge⟩, hrow, rfl⟩ := List.mem_map.1 ha
  obtain ⟨⟨flow', edge'⟩, hrow', rfl⟩ := List.mem_map.1 hb
  obtain ⟨hstored, hflow⟩ := List.mem_filter.1 hrow
  obtain ⟨hstored', hflow'⟩ := List.mem_filter.1 hrow'
  obtain rfl : flow = id := beq_iff_eq.1 hflow
  obtain rfl : flow' = flow := beq_iff_eq.1 hflow'
  rw [decide_eq_true_eq] at hab hba
  exact hu.edge_eq hstored hstored' (Int.le_antisymm hab hba)

/-- The graphs of a flow are alike. -/
theorem graphOf_alike {flow : Flow} (hflow : flow ∈ store.flows) :
    (store.graphOf flow.id).Alike (store'.graphOf flow.id) := by
  have hnodes : (store'.graphOf flow.id).nodes.Perm (store.graphOf flow.id).nodes :=
    (h.nodes.filter _).map _
  refine ⟨h.edges_graphOf hu flow.id, fun id => ?_, ?_⟩
  · refine List.find?_eq_find?_of_perm
      ((List.reverse_perm _).trans (hnodes.trans (List.reverse_perm _).symm)) ?_
    rintro a ⟨ha, hid⟩ b ⟨hb, hid'⟩
    rw [List.mem_reverse, hnodes.mem_iff, mem_nodes_graphOf] at ha hb
    exact hu.node_eq ha hb ((beq_iff_eq.1 hid).trans (beq_iff_eq.1 hid').symm)
  · refine List.find?_eq_find?_of_perm hnodes ?_
    rintro a ⟨ha, ht⟩ b ⟨hb, ht'⟩
    rw [hnodes.mem_iff, mem_nodes_graphOf] at ha hb
    exact hu.triggers flow hflow a b ha hb (beq_iff_eq.1 ht) (beq_iff_eq.1 ht')

/-- **The same flows can be loaded, and their graphs are alike.** -/
theorem load?_alike (id : String) :
    Option.Rel FlowGraph.Alike (store.load? id) (store'.load? id) := by
  unfold load?
  cases hget : store.get? id with
  | none =>
    have hget' : store'.get? id = none :=
      List.find?_eq_none.2 fun flow hflow =>
        List.find?_eq_none.1 hget flow (h.flows.mem_iff.1 hflow)
    rw [hget']
    exact .none
  | some flow =>
    have hflow : flow ∈ store.flows := List.mem_of_find?_eq_some hget
    have hid : flow.id = id := by simpa using List.find?_some hget
    obtain ⟨flow', hget'⟩ : ∃ flow', store'.get? id = some flow' :=
      Option.isSome_iff_exists.1 (List.find?_isSome.2
        ⟨flow, h.flows.mem_iff.2 hflow, by simpa using hid⟩)
    rw [hget']
    subst hid
    exact .some (h.graphOf_alike hu hflow)

end Reorders

end Flows

/-! ## Walks -/

namespace FlowGraph.Alike

variable {graph graph' : FlowGraph} (h : graph.Alike graph')
include h

/-- A node is left by the same edge. -/
theorem nextEdge?_eq (id : String) (handle : Option String) :
    graph'.nextEdge? id handle = graph.nextEdge? id handle := by
  unfold nextEdge? firstEdge? outgoing
  rw [h.edges]

theorem firstTarget?_eq (id : String) : graph'.firstTarget? id = graph.firstTarget? id := by
  unfold firstTarget? firstEdge? outgoing
  rw [h.edges]

/-- **Walks in graphs that are alike are the same.** -/
theorem walkFrom_eq (recipient : Recipient) (steps : Nat) (next last : Option String)
    (scene : Scene) :
    walkFrom graph' recipient steps next last scene =
      walkFrom graph recipient steps next last scene := by
  have hnode : ∀ next : Option String, next.bind graph'.node? = next.bind graph.node? :=
    fun next => Option.bind_congr fun id _ => h.node? id
  fun_induction walkFrom graph recipient steps next last scene with
  | case1 steps next last scene hnone => rw [walkFrom, hnode, hnone]
  | case2 next last scene node hfound =>
    rw [walkFrom, hnode, hfound]
  | case3 next last scene node hfound steps cause after hact =>
    rw [walkFrom, hnode, hfound]
    simp only [hact]
  | case4 next last scene node hfound steps result after hact entry reason resumeAt hwait =>
    rw [walkFrom, hnode, hfound]
    simp only [hact, hwait]
    rfl
  | case5 next last scene node hfound steps result after hact entry hfinish =>
    rw [walkFrom, hnode, hfound]
    simp only [hact, hfinish]
    rfl
  | case6 next last scene node hfound steps result after hact entry handle hleave target rest ih =>
    rw [walkFrom, hnode, hfound]
    simp only [hact, hleave, h.nextEdge?_eq]
    rw [ih]

end FlowGraph.Alike

end ChatFlow

import Mathlib
import ChatFlow.Proofs.Flow.Published
import ChatFlow.Proofs.Node.Handles

/-!
# Which edges of a published flow can be followed

A walk leaves a node by the first edge that fits the handle by which the node is left. So an edge
can be followed only if no earlier edge out of its source bears the same handle
(`FlowGraph.IsShadowed`), and in a published flow that is all it takes
(`FlowGraph.IsPublishable.selected_iff_not_shadowed`). The check of a flow keeps the edges of a node
that does not branch from standing in each other's way, but not those of a node that branches:
`twinGraph` may be published, and one of its edges is never followed (`twin_edge_not_selected`).

Edges are told apart by their places in the graph. `FlowGraph.nextPlace?` gives the place of the
edge that `FlowGraph.nextEdge?` gives (`FlowGraph.getElem?_nextPlace?`).
-/

namespace ChatFlow

namespace FlowGraph

/-! ## Places -/

/-- The place of the first edge out of a node that passes a test. -/
def firstPlace? (graph : FlowGraph) (id : String) (test : FlowEdge → Bool) : Option Nat :=
  graph.edges.findIdx? fun edge => edge.source == id && test edge

/-- The place of the edge by which a node is left, with a handle or without. -/
def nextPlace? (graph : FlowGraph) (id : String) : Option String → Option Nat
  | some handle => graph.firstPlace? id (·.handle == some handle)
  | none => (graph.firstPlace? id (·.isUnlabelled)).or (graph.firstPlace? id fun _ => true)

variable {graph : FlowGraph}

/-- At the first place of an edge out of a node that passes a test stands the first such edge. -/
theorem getElem?_firstPlace? (graph : FlowGraph) (id : String) (test : FlowEdge → Bool) :
    (graph.firstPlace? id test).bind (graph.edges[·]?) = (graph.outgoing id).find? test := by
  rw [outgoing, List.find?_filter, firstPlace?, ← List.find?_eq_bind_findIdx?_getElem?]
  simp only [Bool.decide_and, Bool.decide_eq_true]

/-- **The next place is that of the next edge.** -/
theorem getElem?_nextPlace? (graph : FlowGraph) (id : String) (handle : Option String) :
    (graph.nextPlace? id handle).bind (graph.edges[·]?) = graph.nextEdge? id handle := by
  cases handle with
  | some handle => exact graph.getElem?_firstPlace? id _
  | none =>
    have hunlabelled := graph.getElem?_firstPlace? id (·.isUnlabelled)
    have hany : (graph.firstPlace? id fun _ => true).bind (graph.edges[·]?) =
        graph.firstEdge? id := by
      rw [getElem?_firstPlace?, firstEdge?]
      cases graph.outgoing id <;> rfl
    rw [nextEdge?, ← hunlabelled, ← hany, nextPlace?]
    cases hplace : graph.firstPlace? id (·.isUnlabelled) with
    | none => rfl
    | some place =>
      obtain ⟨hlt, -⟩ := List.findIdx?_eq_some_iff_getElem.1 hplace
      simp only [Option.some_or, Option.bind_some, List.getElem?_eq_getElem hlt]

/-- The first place is that of an edge out of the node that passes the test, before which there is
no other. -/
theorem firstPlace?_eq_some_iff {id : String} {test : FlowEdge → Bool} {place : Nat}
    {edge : FlowEdge} (he : graph.edges[place]? = some edge) :
    graph.firstPlace? id test = some place ↔
      (edge.source = id ∧ test edge = true) ∧ ∀ earlier < place, ∀ other,
        graph.edges[earlier]? = some other → other.source = id → test other = false := by
  obtain ⟨hlt, rfl⟩ := List.getElem?_eq_some_iff.1 he
  rw [firstPlace?, List.findIdx?_eq_some_iff_getElem]
  simp only [Bool.and_eq_true, beq_iff_eq, not_and, Bool.not_eq_true]
  constructor
  · rintro ⟨_, hedge, hbefore⟩
    refine ⟨hedge, fun earlier hearlier other hother => ?_⟩
    obtain ⟨_, rfl⟩ := List.getElem?_eq_some_iff.1 hother
    exact hbefore earlier hearlier
  · rintro ⟨hedge, hbefore⟩
    refine ⟨hlt, hedge, fun earlier hearlier => ?_⟩
    exact hbefore earlier hearlier _ (List.getElem?_eq_getElem (Nat.lt_trans hearlier hlt))

/-! ## Edges that are never followed -/

/-- Whether an earlier edge out of the same node bears the same handle as the edge at a place. -/
def IsShadowed (graph : FlowGraph) (place : Nat) : Prop :=
  ∃ edge, graph.edges[place]? = some edge ∧ ∃ earlier < place, ∃ other,
    graph.edges[earlier]? = some other ∧ other.source = edge.source ∧ other.handle = edge.handle

/-- A node is left with a handle by the edge at a place if the edge bears the handle and is not
shadowed. -/
theorem nextPlace?_some_iff {name : String} {place : Nat} {edge : FlowEdge}
    (he : graph.edges[place]? = some edge) :
    graph.nextPlace? edge.source (some name) = some place ↔
      edge.handle = some name ∧ ¬ graph.IsShadowed place := by
  rw [nextPlace?, firstPlace?_eq_some_iff he]
  simp only [true_and, beq_iff_eq, beq_eq_false_iff_ne]
  refine and_congr_right fun hhandle => ⟨?_, ?_⟩
  · rintro hbefore ⟨found, hfound, earlier, hearlier, other, hother, hsource, hsame⟩
    obtain rfl := Option.some.inj (he.symm.trans hfound)
    exact hbefore earlier hearlier other hother hsource (hsame.trans hhandle)
  · intro hfree earlier hearlier other hother hsource hsame
    exact hfree ⟨edge, he, earlier, hearlier, other, hother, hsource, hsame.trans hhandle.symm⟩

/-- If an edge is the only one out of its source, no earlier edge begins there. -/
theorem source_ne_of_outgoing_eq {place earlier : Nat} {edge other : FlowEdge}
    (hone : graph.outgoing edge.source = [edge]) (he : graph.edges[place]? = some edge)
    (hearlier : earlier < place) (ho : graph.edges[earlier]? = some other) :
    other.source ≠ edge.source := by
  intro hsource
  have hother : other ∈ (graph.edges.take place).filter (·.source == edge.source) := by
    refine List.mem_filter.2 ⟨List.mem_of_getElem? (i := earlier) ?_, by simpa using hsource⟩
    rw [List.getElem?_take_of_lt hearlier, ho]
  have hedge : edge ∈ (graph.edges.drop place).filter (·.source == edge.source) := by
    refine List.mem_filter.2 ⟨List.mem_of_getElem? (i := 0) ?_, by simp⟩
    rw [List.getElem?_drop, Nat.add_zero, he]
  have hsplit : (graph.edges.take place).filter (·.source == edge.source) ++
      (graph.edges.drop place).filter (·.source == edge.source) = [edge] := by
    rw [← List.filter_append, List.take_append_drop]
    exact hone
  have hlength := congrArg List.length hsplit
  have hbefore := List.length_pos_of_mem hother
  have hafter := List.length_pos_of_mem hedge
  simp only [List.length_append, List.length_singleton] at hlength
  omega

/-- If an edge is the only one out of its source and bears no label, the source is left by it
without a handle, and it is not shadowed. -/
theorem nextPlace?_none_of_outgoing_eq {place : Nat} {edge : FlowEdge}
    (hone : graph.outgoing edge.source = [edge]) (he : graph.edges[place]? = some edge)
    (hlabel : edge.isUnlabelled = true) :
    graph.nextPlace? edge.source none = some place ∧ ¬ graph.IsShadowed place := by
  have hfree : ∀ earlier < place, ∀ other, graph.edges[earlier]? = some other →
      other.source ≠ edge.source :=
    fun _ hearlier _ hother => source_ne_of_outgoing_eq hone he hearlier hother
  constructor
  · have hplace : graph.firstPlace? edge.source (·.isUnlabelled) = some place :=
      (firstPlace?_eq_some_iff he).2 ⟨⟨rfl, hlabel⟩, fun earlier hearlier other hother hsource =>
        absurd hsource (hfree earlier hearlier other hother)⟩
    rw [nextPlace?, hplace, Option.some_or]
  · rintro ⟨found, hfound, earlier, hearlier, other, hother, hsource, -⟩
    obtain rfl := Option.some.inj (he.symm.trans hfound)
    exact hfree earlier hearlier other hother hsource

end FlowGraph

/-! ## The handles of a published flow -/

/-- The name that flows give a type. -/
def NodeType.name (type : NodeType) : String :=
  ((names.find? (·.2 == type)).map (·.1)).getD ""

theorem NodeType.eq_name_of_mem : ∀ entry ∈ names, entry.1 = entry.2.name := by decide

namespace FlowNode

variable {node : FlowNode} {config : NodeConfig}

/-- The handles with which the edges of a node are compared are those that its configuration
allows. -/
theorem branchesOf_eq (h : node.configured? = some config) :
    FlowGraph.branchesOf node.type config = config.allowedHandles := by
  obtain ⟨type, fields, hname, rfl⟩ := configured?_some h
  have htype : node.type = type.name := NodeType.eq_name_of_mem _ hname
  rw [htype]
  cases type <;> rfl

/-- The types whose nodes are left by a handle are those of which the configuration allows some. -/
theorem mem_branchingTypes_iff (h : node.configured? = some config) :
    node.type ∈ branchingTypes ↔ config.allowedHandles.isSome = true := by
  obtain ⟨type, fields, hname, rfl⟩ := configured?_some h
  have htype : node.type = type.name := NodeType.eq_name_of_mem _ hname
  rw [htype]
  cases type with
  | condition | loop | randomChoice => exact iff_of_true (by decide) rfl
  | _ => exact iff_of_false (by decide) Bool.false_ne_true

end FlowNode

namespace FlowGraph.IsPublishable

variable {graph : FlowGraph} {node : FlowNode} {config : NodeConfig} {edge : FlowEdge}

/-- No edge leads out of an end. -/
theorem outgoing_end (h : graph.IsPublishable) (hn : node ∈ graph.nodes)
    (hend : node.type = "end") : graph.outgoing node.id = [] := by
  obtain ⟨config, hc⟩ := h.configured? hn
  have hnone := (defects_eq_nil_iff.1 h.defects).2.2.2 node hn
  simp only [exitDefects, h.configOf?_eq hn hc, h.soundEdges_eq, hend, beq_self_eq_true, if_true]
    at hnone
  by_contra hedges
  simp [hedges] at hnone

/-- An edge out of a node that branches bears a handle by which the node can be left. -/
theorem handle_mem (h : graph.IsPublishable) (hn : node ∈ graph.nodes)
    (hc : node.configured? = some config) {allowed : List String}
    (ha : config.allowedHandles = some allowed) (he : edge ∈ graph.outgoing node.id) :
    ∃ name ∈ allowed, edge.handle = some name := by
  have hnone := (defects_eq_nil_iff.1 h.defects).2.2.2 node hn
  have hnotEnd : (node.type == "end") = false := by
    refine beq_false_of_ne fun hend => ?_
    rw [h.outgoing_end hn hend] at he
    cases he
  simp only [exitDefects, h.configOf?_eq hn hc, h.soundEdges_eq, hnotEnd, Bool.false_eq_true,
    if_false, FlowNode.branchesOf_eq hc, ha] at hnone
  have hbranch := List.map_eq_nil_iff.1 (List.append_eq_nil_iff.1 hnone).2
  have hall := List.filter_eq_nil_iff.1 hbranch edge he
  obtain ⟨name, hname, hcontains⟩ := (Option.any_eq_true _ _).1 (by simpa using hall)
  exact ⟨name, by simpa using hcontains, hname⟩

/-- An edge out of a node that does not branch is the only one, and bears no label. -/
theorem straight_edge (h : graph.IsPublishable) (hn : node ∈ graph.nodes)
    (hc : node.configured? = some config) (ha : config.allowedHandles = none)
    (he : edge ∈ graph.outgoing node.id) :
    graph.outgoing node.id = [edge] ∧ edge.isUnlabelled = true := by
  have hend : node.type ≠ "end" := by
    intro hend
    rw [h.outgoing_end hn hend] at he
    cases he
  have hbranch : node.type ∉ branchingTypes := by
    rw [FlowNode.mem_branchingTypes_iff hc, ha]
    exact Bool.false_ne_true
  constructor
  · have hfirst := (h.straight hn ⟨hend, hbranch⟩).1
    cases hedge : graph.firstEdge? node.id with
    | none =>
      rw [hfirst, hedge] at he
      cases he
    | some first =>
      rw [hfirst, hedge] at he
      rw [hfirst, hedge, List.mem_singleton.1 he]
      rfl
  · have huseless := (List.append_eq_nil_iff.1 ((h.exits hn hend).2 hbranch)).1
    have hnone := List.filterMap_eq_nil_iff.1 huseless edge he
    have hlabel : presentText? edge.handle = none := Option.map_eq_none_iff.1 hnone
    unfold FlowEdge.isUnlabelled
    cases hhandle : edge.handle with
    | none => rfl
    | some label =>
      rw [hhandle, presentText?] at hlabel
      split at hlabel
      · next hempty => exact hempty
      · cases hlabel

/-- **Which edges can be followed.** An edge of a published flow is the one by which its source is
left in some way that the source allows, unless it is shadowed; and no edge out of a node that does
not branch is shadowed. -/
theorem selected_iff_not_shadowed (h : graph.IsPublishable) {place : Nat}
    (he : graph.edges[place]? = some edge) :
    ∃ node ∈ graph.nodes, node.id = edge.source ∧
      ∃ config, node.configured? = some config ∧
        ((∃ output, config.Allows output ∧ graph.nextEdge? node.id output = some edge ∧
            graph.nextPlace? node.id output = some place) ↔ ¬ graph.IsShadowed place) ∧
        (config.allowedHandles = none → ¬ graph.IsShadowed place) := by
  have hmem : edge ∈ graph.edges := List.mem_of_getElem? he
  obtain ⟨node, hfound⟩ :=
    exists_node?_of_hasNode (Bool.and_eq_true_iff.1 (h.joinsNodes hmem)).1
  have hn : node ∈ graph.nodes := node?_some hfound
  have hid : node.id = edge.source := node?_id hfound
  have hout : edge ∈ graph.outgoing node.id := mem_outgoing.2 ⟨hmem, hid.symm⟩
  obtain ⟨config, hc⟩ := h.configured? hn
  have hedge : ∀ output, graph.nextPlace? node.id output = some place →
      graph.nextEdge? node.id output = some edge := by
    intro output hplace
    rw [← getElem?_nextPlace?, hplace, Option.bind_some, he]
  refine ⟨node, hn, hid, config, hc, ?_⟩
  cases ha : config.allowedHandles with
  | none =>
    obtain ⟨hone, hlabel⟩ := h.straight_edge hn hc ha hout
    rw [hid] at hone hedge ⊢
    obtain ⟨hplace, hfree⟩ := nextPlace?_none_of_outgoing_eq hone he hlabel
    have hallows : config.Allows none := by rw [NodeConfig.Allows, ha]
    exact ⟨iff_of_true ⟨none, hallows, hedge none hplace, hplace⟩ hfree, fun _ => hfree⟩
  | some allowed =>
    obtain ⟨name, hname, hhandle⟩ := h.handle_mem hn hc ha hout
    have hallows : ∀ output, config.Allows output ↔ ∃ known ∈ allowed, output = some known := by
      intro output
      rw [NodeConfig.Allows, ha]
    refine ⟨⟨?_, fun hfree => ?_⟩, fun hnone => nomatch hnone⟩
    · rintro ⟨output, hallowed, -, hplace⟩
      obtain ⟨known, -, rfl⟩ := (hallows output).1 hallowed
      rw [hid] at hplace
      exact ((nextPlace?_some_iff he).1 hplace).2
    · have hplace : graph.nextPlace? node.id (some name) = some place := by
        rw [hid]
        exact (nextPlace?_some_iff he).2 ⟨hhandle, hfree⟩
      exact ⟨some name, (hallows _).2 ⟨name, hname, rfl⟩, hedge _ hplace, hplace⟩

end FlowGraph.IsPublishable

/-! ## Two edges with one handle -/

/-- A flow that goes round a loop once: the loop is left by either of its handles. -/
def loopGraph : FlowGraph where
  nodes := [⟨"t", "trigger", .null⟩, ⟨"l", "loop", .null⟩, ⟨"w", "waitForReply", .null⟩,
    ⟨"e", "end", .null⟩]
  edges := [⟨"t", "l", none, 0⟩, ⟨"l", "w", some "loop", 1⟩, ⟨"w", "l", none, 2⟩,
    ⟨"l", "e", some "complete", 3⟩]

/-- The last edge of the flow can be followed. -/
theorem selected_iff_not_shadowed_loop :
    loopGraph.edges[3]? = some ⟨"l", "e", some "complete", 3⟩ ∧
      ∃ node ∈ loopGraph.nodes, ∃ config, node.configured? = some config ∧
        ∃ output, config.Allows output ∧
          loopGraph.nextEdge? node.id output = some ⟨"l", "e", some "complete", 3⟩ := by
  have hpublishable : loopGraph.IsPublishable := ⟨by cbv, by decide⟩
  have he : loopGraph.edges[3]? = some ⟨"l", "e", some "complete", 3⟩ := rfl
  refine ⟨he, ?_⟩
  obtain ⟨node, hn, -, config, hc, hselected, -⟩ := hpublishable.selected_iff_not_shadowed he
  have hfree : ¬ loopGraph.IsShadowed 3 := by
    rintro ⟨edge, hedge, earlier, hearlier, other, hother, hsource, hsame⟩
    obtain rfl := Option.some.inj (he.symm.trans hedge)
    have hmem : other ∈ loopGraph.edges.take 3 := by
      refine List.mem_of_getElem? (i := earlier) ?_
      rw [List.getElem?_take_of_lt hearlier, hother]
    have hapart : ∀ other ∈ loopGraph.edges.take 3,
        ¬ (other.source = "l" ∧ other.handle = some "complete") := by decide
    exact hapart other hmem ⟨hsource, hsame⟩
  obtain ⟨output, hallowed, hedge, -⟩ := hselected.2 hfree
  exact ⟨node, hn, config, hc, output, hallowed, hedge⟩

/-- A flow that asks a condition, of which two edges bear the same handle. -/
def twinGraph : FlowGraph where
  nodes := [⟨"t", "trigger", .null⟩, ⟨"c", "condition", .null⟩, ⟨"a", "end", .null⟩,
    ⟨"b", "end", .null⟩]
  edges := [⟨"t", "c", none, 0⟩, ⟨"c", "a", some "false", 1⟩, ⟨"c", "b", some "false", 2⟩]

/-- The flow may be published, and yet its last edge is never followed, whatever the condition
allows. -/
theorem twin_edge_not_selected :
    twinGraph.IsPublishable ∧ twinGraph.edges[2]? = some ⟨"c", "b", some "false", 2⟩ ∧
      FlowNode.configured? ⟨"c", "condition", .null⟩ = some (.condition [] "false") ∧
      ∀ output, (NodeConfig.condition [] "false").Allows output →
        twinGraph.nextEdge? "c" output ≠ some ⟨"c", "b", some "false", 2⟩ := by
  refine ⟨⟨by cbv, by decide⟩, rfl, by rfl, ?_⟩
  rintro output ⟨name, hname, rfl⟩
  obtain rfl : name = "false" := by simpa using hname
  decide

end ChatFlow

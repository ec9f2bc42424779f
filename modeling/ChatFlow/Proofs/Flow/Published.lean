import ChatFlow.Flow.Validation
import ChatFlow.Proofs.Config.Complaints
import ChatFlow.Proofs.Engine.Itinerary

/-!
# Published flows

A graph without defects, of which no two nodes share an id, can be walked. It has a trigger with a
way out (`IsPublishable.trigger`), every edge leads to a node (`IsPublishable.target`), every node
is of a known type with a configuration that can be read (`IsPublishable.configured`), and a node
that neither ends the flow nor branches is left by the same edge in whichever way it is left
(`IsPublishable.straight`).
-/

namespace ChatFlow

/-- Whether a flow with the graph may be published, and no two of its nodes share an id. -/
structure FlowGraph.IsPublishable (graph : FlowGraph) : Prop where
  defects : graph.defects = []
  nodup : (graph.nodes.map (·.id)).Nodup

/-- The types of the nodes that are left by a handle. -/
def branchingTypes : List String := ["condition", "loop", "randomChoice"]

/-- Whether a node neither ends a flow nor branches. -/
def FlowNode.IsStraight (node : FlowNode) : Prop :=
  node.type ≠ "end" ∧ node.type ∉ branchingTypes

/-- A text that counts only if it is not empty is not empty. -/
theorem presentText?_ne_empty {given : Option String} {s : String}
    (h : presentText? given = some s) : s ≠ "" := by
  rintro rfl
  unfold presentText? at h
  split at h
  · next text =>
    split at h
    · cases h
    · next hne =>
      obtain rfl := Option.some.inj h
      exact hne rfl
  · cases h

namespace FlowNode

variable {node : FlowNode} {config : NodeConfig} {next : Next}

/-- A configuration is read from fields, by the type of the node. -/
theorem configured?_some (h : node.configured? = some config) :
    ∃ type fields, (node.type, type) ∈ NodeType.names ∧ config = .ofFields type fields := by
  obtain ⟨type, htype, hconfig⟩ := Option.bind_eq_some_iff.1 h
  obtain ⟨before, after, hnames, -⟩ := List.lookup_eq_some_iff.1 htype
  have hmem : (node.type, type) ∈ NodeType.names := by
    rw [hnames]
    exact List.mem_append_right _ List.mem_cons_self
  unfold NodeType.configure at hconfig
  cases hfields : type.readConfig node.config with
  | error report =>
    rw [hfields] at hconfig
    cases hconfig
  | ok fields =>
    rw [hfields] at hconfig
    cases hconfig
    exact ⟨type, fields, hmem, rfl⟩

/-- A node that waits neither ends the flow nor branches. -/
theorem isStraight_of_wait {reason : String} {resumeAt : Option ZonedMoment}
    (h : node.configured? = some config) (hl : config.Leads (.wait reason resumeAt)) :
    node.IsStraight := by
  obtain ⟨type, fields, hname, rfl⟩ := configured?_some h
  cases type with
  | waitForReply =>
    have ht : node.type = "waitForReply" := by simpa [NodeType.names] using hname
    rw [IsStraight, ht]
    decide
  | delay =>
    have ht : node.type = "delay" := by simpa [NodeType.names] using hname
    rw [IsStraight, ht]
    decide
  | condition | loop | randomChoice =>
    obtain ⟨_, he⟩ := hl
    cases he
  | _ => cases hl

/-- A node that neither ends the flow nor branches leads on without a handle, if it leads on. -/
theorem IsStraight.handle_eq_none {handle : Option String} (hs : node.IsStraight)
    (h : node.configured? = some config) (hl : config.Leads (.leave handle)) : handle = none := by
  obtain ⟨type, fields, hname, rfl⟩ := configured?_some h
  cases type with
  | condition | loop | randomChoice =>
    refine absurd ?_ hs.2
    simp only [NodeType.names, List.mem_cons, Prod.mk.injEq, reduceCtorEq, and_false, and_true,
      or_false, false_or, List.not_mem_nil] at hname
    rw [hname]
    decide
  | waitForReply | finish => cases hl
  | delay =>
    obtain ⟨_, he⟩ := hl
    cases he
  | _ => exact Next.leave.inj hl

end FlowNode

namespace FlowGraph

variable {graph : FlowGraph}

/-- A node that is there is found. -/
theorem exists_node?_of_hasNode {id : String} (h : graph.hasNode id = true) :
    ∃ node, graph.node? id = some node := by
  refine Option.isSome_iff_exists.1 (List.find?_isSome.2 ?_)
  obtain ⟨node, hnode, hid⟩ := List.any_eq_true.1 h
  exact ⟨node, List.mem_reverse.2 hnode, hid⟩

/-- What it takes to have no defects. -/
theorem defects_eq_nil_iff :
    graph.defects = [] ↔ graph.triggerDefects = [] ∧ (∀ node ∈ graph.nodes, node.defects = []) ∧
      graph.edgeDefects = [] ∧ ∀ node ∈ graph.nodes, graph.exitDefects node = [] := by
  simp only [defects, List.append_eq_nil_iff, List.flatMap_eq_nil_iff, and_assoc]

/-- A node at which a walk parks neither ends the flow nor branches. -/
theorem isStraight_of_parked {recipient : Recipient} {steps : Nat}
    {next last : Option String} {scene : Scene} {id reason : String}
    {resumeAt : Option ZonedMoment}
    (he : (walkFrom graph recipient steps next last scene).ending = .parked id reason resumeAt) :
    ∃ node ∈ graph.nodes, node.id = id ∧ node.IsStraight := by
  obtain ⟨node, hn, hid, before, result, after, hact, hnext⟩ := walkFrom_parked he
  obtain ⟨config, hconfig, hleads⟩ := FlowNode.leads_of_wait recipient hact hnext
  exact ⟨node, hn, node?_id hid, node.isStraight_of_wait hconfig hleads⟩

namespace IsPublishable

/-- A node is found by its id. -/
theorem node?_eq (h : graph.IsPublishable) {node : FlowNode} (hn : node ∈ graph.nodes) :
    graph.node? node.id = some node := by
  obtain ⟨found, hfound⟩ : ∃ found, graph.node? node.id = some found :=
    exists_node?_of_hasNode (List.any_eq_true.2 ⟨node, hn, by simp⟩)
  rw [hfound, List.inj_on_of_nodup_map h.nodup (node?_some hfound) hn (node?_id hfound)]

/-- Every edge joins nodes. -/
theorem joinsNodes (h : graph.IsPublishable) {edge : FlowEdge} (he : edge ∈ graph.edges) :
    graph.joinsNodes edge = true := by
  have hnone := List.map_eq_nil_iff.1 (defects_eq_nil_iff.1 h.defects).2.2.1
  rw [List.filter_eq_nil_iff] at hnone
  simpa using hnone edge he

/-- **Every edge leads to a node.** -/
theorem target (h : graph.IsPublishable) {edge : FlowEdge} (he : edge ∈ graph.edges) :
    ∃ node, graph.node? edge.target = some node :=
  exists_node?_of_hasNode (Bool.and_eq_true_iff.1 (h.joinsNodes he)).2

/-- All edges out of a node count. -/
theorem soundEdges_eq (h : graph.IsPublishable) (id : String) :
    graph.soundEdges id = graph.outgoing id :=
  List.filter_eq_self.2 fun _ he => h.joinsNodes (mem_outgoing.1 he).1

/-- **Every node is of a known type, and its configuration can be read.** -/
theorem configured (h : graph.IsPublishable) {node : FlowNode} (hn : node ∈ graph.nodes) :
    ∃ type config, NodeType.ofName? node.type = some type ∧
      type.configure node.config = .ok config := by
  have hnone := (defects_eq_nil_iff.1 h.defects).2.1 node hn
  unfold FlowNode.defects at hnone
  split at hnone
  · cases hnone
  · next type htype =>
    have hread := (List.append_eq_nil_iff.1 hnone).2
    cases hfields : type.readConfig node.config with
    | error report =>
      rw [hfields] at hread
      exact absurd (List.map_eq_nil_iff.1 hread) (NodeType.readConfig_error hfields)
    | ok fields =>
      refine ⟨type, .ofFields type fields, htype, ?_⟩
      rw [NodeType.configure, hfields]
      rfl

theorem configured? (h : graph.IsPublishable) {node : FlowNode} (hn : node ∈ graph.nodes) :
    ∃ config, node.configured? = some config := by
  obtain ⟨type, config, htype, hconfig⟩ := h.configured hn
  refine ⟨config, Option.bind_eq_some_iff.2 ⟨type, htype, ?_⟩⟩
  rw [hconfig]
  rfl

/-- The configuration that counts for the id of a node is its own. -/
theorem configOf?_eq (h : graph.IsPublishable) {node : FlowNode} (hn : node ∈ graph.nodes)
    {config : NodeConfig} (hc : node.configured? = some config) :
    graph.configOf? node.id = some config := by
  have hall : ∀ other ∈ (graph.nodes.filter (·.id == node.id)).reverse, other = node := by
    intro other hother
    obtain ⟨hmem, hid⟩ := List.mem_filter.1 (List.mem_reverse.1 hother)
    exact List.inj_on_of_nodup_map h.nodup hmem hn (by simpa using hid)
  have hself : node ∈ (graph.nodes.filter (·.id == node.id)).reverse :=
    List.mem_reverse.2 (List.mem_filter.2 ⟨hn, by simp⟩)
  unfold configOf?
  cases hl : (graph.nodes.filter (·.id == node.id)).reverse with
  | nil =>
    rw [hl] at hself
    cases hself
  | cons first rest =>
    have hfirst : first = node := hall first (hl ▸ List.mem_cons_self)
    rw [hfirst, List.findSome?_cons, hc]

/-- What it takes for the ways out of a node that is no end to have no defects. -/
theorem exits (h : graph.IsPublishable) {node : FlowNode} (hn : node ∈ graph.nodes)
    (hend : node.type ≠ "end") :
    (node.type = "trigger" → graph.outgoing node.id ≠ []) ∧
      (node.type ∉ branchingTypes → straightDefects node (graph.outgoing node.id) = []) := by
  obtain ⟨config, hconfig⟩ := h.configured? hn
  have hnone := (defects_eq_nil_iff.1 h.defects).2.2.2 node hn
  have hnotEnd : (node.type == "end") = false := by simpa using hend
  simp only [exitDefects, h.configOf?_eq hn hconfig, h.soundEdges_eq, hnotEnd, Bool.false_eq_true,
    if_false] at hnone
  obtain ⟨hdead, hbranch⟩ := List.append_eq_nil_iff.1 hnone
  constructor
  · intro ht he
    simp [ht, he] at hdead
  · intro hb
    have hbranches : branchesOf node.type config = none := by
      simp only [branchingTypes, List.mem_cons, List.not_mem_nil, or_false, not_or] at hb
      unfold branchesOf
      split
      · next heq => exact absurd heq hb.2.1
      · next heq => exact absurd heq hb.1
      · next heq => exact absurd heq hb.2.2
      · rfl
    rw [hbranches] at hbranch
    exact hbranch

/-- **A node that neither ends the flow nor branches** has at most one way out, and is left by it
with or without looking for an edge without a handle. -/
theorem straight (h : graph.IsPublishable) {node : FlowNode} (hn : node ∈ graph.nodes)
    (hs : node.IsStraight) :
    graph.outgoing node.id = (graph.firstEdge? node.id).toList ∧
      graph.nextEdge? node.id none = graph.firstEdge? node.id := by
  have hcrowded := (List.append_eq_nil_iff.1 ((h.exits hn hs.1).2 hs.2)).2
  have hfew : (graph.outgoing node.id).length ≤ 1 := by
    by_contra hmany
    rw [if_pos (by omega)] at hcrowded
    cases hcrowded
  unfold nextEdge? firstEdge?
  cases hl : graph.outgoing node.id with
  | nil => exact ⟨rfl, rfl⟩
  | cons edge rest =>
    obtain rfl : rest = [] := by
      rw [hl, List.length_cons] at hfew
      exact List.eq_nil_of_length_eq_zero (by omega)
    refine ⟨rfl, ?_⟩
    cases hu : edge.isUnlabelled <;> simp [hu]

/-- **The flow has a trigger with a way out.** -/
theorem trigger (h : graph.IsPublishable) :
    ∃ trigger edge, graph.trigger? = some trigger ∧ graph.firstEdge? trigger.id = some edge := by
  have hcount := (defects_eq_nil_iff.1 h.defects).1
  have hone : graph.nodes.countP (·.type == "trigger") = 1 := by
    by_contra hother
    simp [triggerDefects, hother] at hcount
  obtain ⟨node, hnode, htype⟩ :=
    List.countP_pos_iff.1 (Nat.lt_of_lt_of_eq Nat.zero_lt_one hone.symm)
  obtain ⟨trigger, htrigger⟩ : ∃ trigger, graph.trigger? = some trigger :=
    Option.isSome_iff_exists.1 (List.find?_isSome.2 ⟨node, hnode, htype⟩)
  have htype : trigger.type = "trigger" := by simpa using List.find?_some htrigger
  have hend : trigger.type ≠ "end" := by rw [htype]; decide
  have hout := (h.exits (List.mem_of_find?_eq_some htrigger) hend).1 htype
  obtain ⟨edge, rest, hedges⟩ := List.exists_cons_of_ne_nil hout
  exact ⟨trigger, edge, htrigger, by rw [firstEdge?, hedges]; rfl⟩

/-- A node of the flow does what its kind does. -/
theorem act_ensures (h : graph.IsPublishable) {node : FlowNode} (hn : node ∈ graph.nodes)
    (recipient : Recipient) :
    ∃ config, node.configured? = some config ∧
      (node.act recipient).Ensures fun result => config.Leads result.next := by
  obtain ⟨config, hconfig⟩ := h.configured? hn
  refine ⟨config, hconfig, ?_⟩
  rw [FlowNode.act_of_configured recipient hconfig]
  exact config.act_ensures recipient node.id

/-- No node of the flow fails for its configuration. -/
theorem not_config (h : graph.IsPublishable) {node : FlowNode} {cause : Failure}
    (hf : graph.FailsAt node cause) (report : ConfigReport) : cause ≠ .config report := by
  obtain ⟨hn, recipient, before, after, hact⟩ := hf
  obtain ⟨config, -, hensures⟩ := h.act_ensures hn recipient
  have hends := hensures before
  rw [hact] at hends
  cases hends with
  | fails _ _ _ harises => exact harises.not_config report

/-- A node of the flow that neither ends it nor branches is left by its first edge when a walk goes
on from it. -/
theorem nextEdge?_of_leave (h : graph.IsPublishable) {node : FlowNode} (hn : node ∈ graph.nodes)
    (hs : node.IsStraight) {recipient : Recipient} {before after : Scene} {result : NodeResult}
    (hact : (node.act recipient).run.run before = (.ok result, after)) {handle : Option String}
    (hl : result.next = .leave handle) :
    graph.nextEdge? node.id handle = graph.firstEdge? node.id := by
  obtain ⟨config, hconfig, hensures⟩ := h.act_ensures hn recipient
  have hends := hensures before
  rw [hact] at hends
  cases hends with
  | gives _ _ _ hleads =>
    rw [hl] at hleads
    rw [hs.handle_eq_none hconfig hleads]
    exact (h.straight hn hs).2

/-- All that a walk meets in the flow from an edge of it. -/
theorem forall_mem_itinerary (h : graph.IsPublishable) {recipient : Recipient} {steps : Nat}
    {next : Option String} {scene : Scene}
    (hnext : ∀ id, next = some id → ∃ node, graph.node? id = some node) :
    ∀ point ∈ itinerary graph recipient steps next scene, ∃ node ∈ graph.nodes,
      (point = .visited node ∨ point = .halted node) := by
  refine ChatFlow.forall_mem_itinerary (fun node hn => ⟨node, hn, .inl rfl⟩)
    (fun node hn => ⟨node, hn, .inr rfl⟩) (fun edge he hnone => ?_) (fun id hid hnone => ?_)
  · obtain ⟨node, hnode⟩ := h.target he
    rw [hnone] at hnode
    cases hnode
  · obtain ⟨node, hnode⟩ := hnext id hid
    rw [hnone] at hnode
    cases hnode

end IsPublishable

end FlowGraph

end ChatFlow

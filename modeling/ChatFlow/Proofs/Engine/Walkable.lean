import ChatFlow.Proofs.Engine.Events
import ChatFlow.Proofs.Flow.Published

/-!
# Published flows are walkable

`FlowGraph.IsPublishable.walkable` says what the check of a flow is good for. As long as the graph
stays as it was published, no invocation finds the flow missing or without a trigger, no walk
follows an edge that leads nowhere or meets a node that cannot be read, and a node that does not
branch is left by the same edge whether a walk goes on from it, a reply comes, or a timer is due.

The invariant is `World.Hosts`: every active execution of the flow stands at a node of its graph,
and one that waits at a node that does not branch.
-/

namespace ChatFlow

/-- Whether an event leaves the graph of a flow as it is. -/
def Event.KeepsFlow (flow : String) (graph : FlowGraph) (event : Event) : Prop :=
  ∀ world, event = .change world → world.flows.load? flow = some graph

/-- Whether an execution stands at a node of a graph, and waits at most at one that neither ends the
flow nor branches. -/
def Execution.StandsIn (row : Execution) (graph : FlowGraph) : Prop :=
  ∃ node ∈ graph.nodes, row.currentNode = some node.id ∧
    (row.status = .waiting → node.IsStraight)

/-- What holds at all times of a world in which a flow has a graph. -/
structure World.Hosts (w : World) (flow : String) (graph : FlowGraph) : Prop where
  sound : w.executions.Sound
  load : w.flows.load? flow = some graph
  stands : ∀ row ∈ w.executions.rows, row.flowId = flow → row.status.isActive = true →
    row.StandsIn graph

/-- What an invocation does with a flow that is walkable. -/
structure World.WalksWell (w : World) (flow : String) (graph : FlowGraph) (call : Invocation) :
    Prop where
  /-- The flow is there and has a trigger. -/
  configured : (call.perform.exec w).1 ≠ .error (.unknownFlow flow) ∧
    (call.perform.exec w).1 ≠ .error (.noTrigger flow)
  /-- The node that asked for a reply can be read. -/
  readable : ∀ failure, (call.plan w).1 ≠ .block flow failure
  /-- A walk meets only nodes of the flow, which are of known types and can be read. -/
  meets : ∀ leg w', call.plan w = (.walk leg, w') → leg.held.flowId = flow →
    ∀ point ∈ leg.itinerary w', ∃ node ∈ graph.nodes,
      (point = .visited node ∨ point = .halted node) ∧
      ∃ type config, NodeType.ofName? node.type = some type ∧
        type.configure node.config = .ok config
  /-- No node fails for its configuration. -/
  performs : ∀ leg w', call.plan w = (.walk leg, w') → leg.held.flowId = flow →
    ∀ report, (call.perform.exec w).1 ≠ .error (.config report) ∧
      ∀ id type, (call.perform.exec w).1 ≠ .error (.node id type (.config report))
  /-- A reply and a timer lead on from the node at which the execution waits by its first edge,
  which is the edge that bears no handle. -/
  leaves : ∀ leg w', call.plan w = (.walk leg, w') → leg.held.flowId = flow →
    leg.held.status = .waiting → ∃ node ∈ graph.nodes, leg.held.currentNode = some node.id ∧
      leg.next = (graph.firstEdge? node.id).map (·.target) ∧
      leg.next = (graph.nextEdge? node.id none).map (·.target)

/-- The first edge out of a node is one of the graph. -/
theorem FlowGraph.mem_edges_of_firstEdge? {graph : FlowGraph} {id : String} {edge : FlowEdge}
    (h : graph.firstEdge? id = some edge) : edge ∈ graph.edges :=
  (mem_outgoing.1 (List.mem_of_mem_head? h)).1

/-- Where a walk begins: at the end of an edge, or at a node that was found. -/
theorem SetsOut.next_some {w w' : World} {call : Invocation} {leg : Leg}
    (h : SetsOut w call leg w') {id : String} (hid : leg.next = some id) :
    (∃ edge ∈ leg.graph.edges, edge.target = id) ∨ ∃ node, leg.graph.node? id = some node := by
  have hfirst : ∀ {graph : FlowGraph} {source : String}, graph.firstTarget? source = some id →
      ∃ edge ∈ graph.edges, edge.target = id := by
    intro graph source hsource
    obtain ⟨edge, hedge, htarget⟩ := Option.map_eq_some_iff.1 hsource
    exact ⟨edge, FlowGraph.mem_edges_of_firstEdge? hedge, htarget⟩
  cases h with
  | reply => exact .inl (hfirst hid)
  | stranded => cases hid
  | restart =>
    obtain ⟨node, hnode, hnext⟩ := Option.bind_eq_some_iff.1 hid
    obtain ⟨source, -, hsource⟩ := Option.bind_eq_some_iff.1 hnode
    split at hnext
    · exact .inl (hfirst hnext)
    · cases hnext
      exact .inr ⟨node, by rw [FlowGraph.node?_id hsource]; exact hsource⟩
  | departure => exact .inl (hfirst hid)
  | timer =>
    obtain ⟨edge, hedge, htarget⟩ := Option.map_eq_some_iff.1 hid
    obtain ⟨source, -, hsource⟩ := Option.bind_eq_some_iff.1 hedge
    exact .inl ⟨edge, (FlowGraph.mem_outgoing.1
      (FlowGraph.mem_outgoing_of_nextEdge? hsource)).1, htarget⟩

/-- Where a walk begins that a reply or a timer sets off: behind the node at which the execution
waits. -/
theorem SetsOut.next_of_waiting {w w' : World} {call : Invocation} {leg : Leg}
    (h : SetsOut w call leg w') (hs : leg.held.status = .waiting) {node : FlowNode}
    (hc : leg.held.currentNode = some node.id) (hn : leg.graph.node? node.id = some node) :
    leg.next = (leg.graph.firstEdge? node.id).map (·.target) ∨
      leg.next = (leg.graph.nextEdge? node.id none).map (·.target) := by
  cases h with
  | @reply graph held message asked reply credentials attempts ha hheld hb hs ht hg hfound hr =>
    rw [show held.currentNode = some node.id from hc] at hfound
    obtain rfl : node = asked := Option.some.inj (hn.symm.trans hfound)
    exact .inl rfl
  | @stranded graph held message credentials attempts ha hheld hb hs ht hg hgone =>
    rw [show held.currentNode = some node.id from hc, Option.bind_some,
      show graph.node? node.id = some node from hn] at hgone
    cases hgone
  | restart credentials attempts ha hheld hb hrunning =>
    cases hs.symm.trans hrunning
  | departure hd hg ht ha hnew => cases hs.symm.trans (congrArg Execution.status hnew)
  | @timer graph held version credentials hd hheld hw hv hl hg =>
    refine .inr ?_
    show (held.currentNode.bind (graph.nextEdge? · none)).map (·.target) = _
    rw [show held.currentNode = some node.id from hc]
    rfl

namespace World

namespace Hosts

variable {w w' : World} {flow : String} {graph : FlowGraph} {call : Invocation} {leg : Leg}

/-- An execution stands at a node that is found. -/
theorem bind_node? (hp : graph.IsPublishable) {row : Execution} (hs : row.StandsIn graph) :
    ∃ node ∈ graph.nodes, row.currentNode = some node.id ∧
      row.currentNode.bind graph.node? = some node ∧
      (row.status = .waiting → node.IsStraight) := by
  obtain ⟨node, hn, hcurrent, hstraight⟩ := hs
  exact ⟨node, hn, hcurrent, by rw [hcurrent]; exact hp.node?_eq hn, hstraight⟩

/-- The flow can be walked. -/
theorem not_blocks (h : w.Hosts flow graph) (hp : graph.IsPublishable) (failure : Failure) :
    ¬ w.Blocks flow failure := by
  intro hb
  cases hb with
  | unknown hnone =>
    rw [h.load] at hnone
    cases hnone
  | noTrigger hg ht =>
    rw [h.load] at hg
    cases hg
    obtain ⟨trigger, edge, htrigger, -⟩ := hp.trigger
    rw [htrigger] at ht
    cases ht
  | @unreadable other held node _ hheld hs hg hn hr =>
    rw [h.load] at hg
    cases hg
    have hactive : held.status.isActive = true := by rw [hs]; rfl
    obtain ⟨found, hfound, -, hbind, -⟩ := bind_node? hp (h.stands held hheld rfl hactive)
    obtain rfl : found = node := Option.some.inj (hbind.symm.trans hn)
    obtain ⟨config, hconfig⟩ := hp.configured? hfound
    rw [FlowNode.replyVariable?_of_configured hconfig] at hr
    cases hr

/-- A walk with an execution of the flow is taken in its graph. -/
theorem graph_eq (h : w.Hosts flow graph) (hl : SetsOut w call leg w')
    (hflow : leg.held.flowId = flow) : leg.graph = graph := by
  have hload := hl.load?_eq
  rw [hflow, h.load] at hload
  exact (Option.some.inj hload).symm

/-- The execution with which a walk is taken stands in the graph. -/
theorem held_standsIn (h : w.Hosts flow graph)
    (hl : SetsOut w call leg w') (hflow : leg.held.flowId = flow) : leg.held.StandsIn graph := by
  rcases hl.active_or_new with ⟨hheld, hactive⟩ | ⟨trigger, ht, hcurrent, hs⟩
  · exact h.stands leg.held hheld hflow hactive
  · rw [h.graph_eq hl hflow] at ht
    refine ⟨trigger, List.mem_of_find?_eq_some ht, hcurrent, fun hw => ?_⟩
    rw [hs] at hw
    cases hw

/-- Where a walk with an execution of the flow begins, there is a node, if it begins anywhere. -/
theorem next_node? (h : w.Hosts flow graph) (hp : graph.IsPublishable)
    (hl : SetsOut w call leg w') (hflow : leg.held.flowId = flow) {id : String}
    (hid : leg.next = some id) : ∃ node, graph.node? id = some node := by
  rw [← h.graph_eq hl hflow] at hp ⊢
  rcases hl.next_some hid with ⟨edge, hedge, rfl⟩ | hfound
  · exact hp.target hedge
  · exact hfound

/-- A walk meets only nodes of the flow. -/
theorem meets (h : w.Hosts flow graph) (hp : graph.IsPublishable) (hl : SetsOut w call leg w')
    (hflow : leg.held.flowId = flow) :
    ∀ point ∈ leg.itinerary w', ∃ node ∈ graph.nodes,
      (point = .visited node ∨ point = .halted node) ∧
      ∃ type config, NodeType.ofName? node.type = some type ∧
        type.configure node.config = .ok config := by
  intro point hpoint
  rw [Leg.itinerary, h.graph_eq hl hflow] at hpoint
  obtain ⟨node, hn, hmet⟩ :=
    hp.forall_mem_itinerary (fun id hid => h.next_node? hp hl hflow hid) point hpoint
  exact ⟨node, hn, hmet, hp.configured hn⟩

/-- A walk leaves its execution standing in the graph, if it leaves it active. -/
theorem standsIn_of_patch? (h : w.Hosts flow graph) (hl : SetsOut w call leg w')
    (hflow : leg.held.flowId = flow) {patch : Patch} (hpatch : leg.patch? w' = .ok patch)
    (hactive : (patch.apply leg.held).status.isActive = true) :
    (patch.apply leg.held).StandsIn graph := by
  rw [← h.graph_eq hl hflow]
  rcases Walk.patch?_ok hpatch with ⟨id, reason, resumeAt, he, hstatus, hcurrent⟩ | ⟨-, hstatus⟩
  · obtain ⟨node, hn, rfl, hstraight⟩ := FlowGraph.isStraight_of_parked he
    refine ⟨node, hn, ?_, fun _ => hstraight⟩
    rw [Patch.apply, hcurrent]
    rfl
  · rw [Patch.apply, hstatus] at hactive
    cases hactive

/-- **An event keeps a world hosting a flow**, if it leaves the graph as it is. -/
theorem next (h : w.Hosts flow graph) {event : Event} (hk : event.KeepsFlow flow graph) :
    (w.next event).Hosts flow graph := by
  refine ⟨sound_next h.sound event, ?_, fun row hrow hflow hactive => ?_⟩
  · cases event with
    | change world => exact hk world rfl
    | invoke call => rw [(frame_next w call).2, h.load]
  · cases stems_of_mem_next h.sound hrow with
    | keeps hold => exact h.stands row hold hflow hactive
    | notes before vars hbefore he =>
      subst he
      exact h.stands before hbefore hflow hactive
    | held leg w' hwalk he =>
      subst he
      obtain ⟨call, -, -, hl⟩ := walk?_some hwalk
      exact h.held_standsIn hl hflow
    | walks leg w' patch hwalk hpatch he =>
      subst he
      obtain ⟨call, -, -, hl⟩ := walk?_some hwalk
      exact h.standsIn_of_patch? hl hflow hpatch hactive

/-- The flow is found and begins at its trigger. -/
theorem configured (h : w.Hosts flow graph) (hp : graph.IsPublishable) (call : Invocation) :
    (call.perform.exec w).1 ≠ .error (.unknownFlow flow) ∧
      (call.perform.exec w).1 ≠ .error (.noTrigger flow) := by
  constructor
  · intro hfails
    cases Invocation.failsBy hfails with
    | blocked w' hplan hb =>
      cases hb with
      | unknown hnone => exact h.not_blocks hp _ (.unknown hnone)
      | unreadable hheld hs hg hn hr =>
        obtain ⟨report, hreport⟩ := FlowNode.replyVariable?_error hr
        cases hreport
  · intro hfails
    cases Invocation.failsBy hfails with
    | blocked w' hplan hb =>
      cases hb with
      | noTrigger hg ht => exact h.not_blocks hp _ (.noTrigger hg ht)
      | unreadable hheld hs hg hn hr =>
        obtain ⟨report, hreport⟩ := FlowNode.replyVariable?_error hr
        cases hreport

/-- **An invocation does well** in a world that hosts a flow. -/
theorem walksWell (h : w.Hosts flow graph) (hp : graph.IsPublishable) (call : Invocation) :
    w.WalksWell flow graph call := by
  have hplanned := call.planned w
  refine ⟨h.configured hp call, fun failure hblock => ?_, fun leg w' hplan hflow =>
    h.meets hp (call.setsOut hplan) hflow, fun leg w' hplan hflow report => ?_,
    fun leg w' hplan hflow hs => ?_⟩
  · rcases hplan : call.plan w with ⟨plan, w'⟩
    rw [hplan] at hblock hplanned
    cases hblock
    cases hplanned with
    | block flow failure attempts ha hb => exact h.not_blocks hp failure hb
  · refine ⟨fun hfails => ?_, fun id type hfails => ?_⟩
    · cases Invocation.failsBy hfails with
      | blocked _ hblock =>
        rw [hplan] at hblock
        cases hblock
    · cases Invocation.failsBy hfails with
      | blocked _ hblock =>
        rw [hplan] at hblock
        cases hblock
      | node hwalk hl he =>
        rw [hplan] at hwalk
        cases hwalk
        have hfailed := walkFrom_failed he
        rw [h.graph_eq hl hflow] at hfailed
        exact hp.not_config hfailed report rfl
  · have hl := call.setsOut hplan
    obtain ⟨node, hn, hcurrent, hstraight⟩ := h.held_standsIn hl hflow
    have hedge := (hp.straight hn (hstraight hs)).2
    refine ⟨node, hn, hcurrent, ?_⟩
    rw [hedge, and_self]
    rw [← h.graph_eq hl hflow] at hp hn hedge ⊢
    rcases hl.next_of_waiting hs hcurrent (hp.node?_eq hn) with hnext | hnext
    · exact hnext
    · rw [hnext, hedge]

end Hosts

end World

/-- **Published flows are walkable.** -/
theorem FlowGraph.IsPublishable.walkable {graph : FlowGraph} (h : graph.IsPublishable) :
    (∃ trigger edge, graph.trigger? = some trigger ∧ graph.firstEdge? trigger.id = some edge) ∧
    (∀ edge ∈ graph.edges, ∃ node, graph.node? edge.target = some node) ∧
    (∀ node ∈ graph.nodes, ∃ type config, NodeType.ofName? node.type = some type ∧
      type.configure node.config = .ok config) ∧
    (∀ node ∈ graph.nodes, node.IsStraight →
      graph.outgoing node.id = (graph.firstEdge? node.id).toList ∧
      graph.nextEdge? node.id none = graph.firstEdge? node.id ∧
      ∀ recipient before result after handle,
        (node.act recipient).run.run before = (.ok result, after) →
        result.next = .leave handle →
          graph.nextEdge? node.id handle = graph.firstEdge? node.id) ∧
    ∀ (w : World) (flow : String) (events : List Event), w.executions.Sound →
      w.flows.load? flow = some graph → (∀ row ∈ w.executions.rows, row.flowId ≠ flow) →
      w.Throughout (fun _ event => event.KeepsFlow flow graph) events →
      w.Throughout (fun now event => ∀ call, event = .invoke call →
        now.WalksWell flow graph call) events := by
  refine ⟨h.trigger, fun edge he => h.target he, fun node hn => h.configured hn,
    fun node hn hs => ⟨(h.straight hn hs).1, (h.straight hn hs).2, ?_⟩, ?_⟩
  · intro recipient before result after handle hact hl
    exact h.nextEdge?_of_leave hn hs hact hl
  · intro w flow events hsound hload hnone hkeeps
    have hhosts : w.Hosts flow graph :=
      ⟨hsound, hload, fun row hrow hflow => absurd hflow (hnone row hrow)⟩
    refine hkeeps.of_step (·.Hosts flow graph) hhosts fun now event hnow hk => ?_
    exact ⟨fun call _ => hnow.walksWell h call, hnow.next hk⟩

/-- A flow that asks for a reply and ends. -/
def askingGraph : FlowGraph where
  nodes := [⟨"t", "trigger", .null⟩, ⟨"q", "waitForReply", .null⟩, ⟨"e", "end", .null⟩]
  edges := [⟨"t", "q", none, 0⟩, ⟨"q", "e", none, 1⟩]

/-- The flow may be published, and a message and a wake-up call do well in it. -/
theorem walkable_asking :
    (World.offering ⟨"f", some "c", .anyMessage, 0, true, true⟩ askingGraph).Throughout
      (fun now event => ∀ call, event = .invoke call → now.WalksWell "f" askingGraph call)
      [.invoke (.inbound ⟨some "c", ⟨none, none⟩⟩ "x"
          ⟨.null, .null, .null, .null, .null, .null⟩ []),
        .invoke (.timer "exec-1" none)] := by
  have hpublishable : askingGraph.IsPublishable := ⟨by cbv, by decide⟩
  obtain ⟨-, -, -, -, hruns⟩ := hpublishable.walkable
  exact hruns _ "f" _ (.of_rows_nil rfl) (by cbv) (fun row hrow => by cases hrow)
    ⟨fun _ => Event.noConfusion, fun _ => Event.noConfusion, trivial⟩

end ChatFlow

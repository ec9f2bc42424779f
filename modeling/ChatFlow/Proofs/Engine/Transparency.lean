import ChatFlow.Proofs.Flow.Detour

/-!
# Nodes of unknown types are transparent

A node of an unknown type may be put on any edge of a flow: no invocation does anything else, as
long as it takes no more steps than it may, and its log has the entries of the node in addition.
This holds wherever the edge lies: out of the trigger, of a branch, of a node that waits, or in a
circle.

`World.play_detour` says so of whole runs; an invocation is a run of one event.
-/

namespace ChatFlow

/-- Whether flows are others with a detour in the graph of one of them. -/
structure Flows.Detours (flow : String) (node : FlowNode) (edge : FlowEdge) (store store' : Flows) :
    Prop where
  flows : store'.flows = store.flows
  others : ∀ id, id ≠ flow → store'.graphOf id = store.graphOf id
  graph : (store.graphOf flow).Detours node edge (store'.graphOf flow)

namespace FlowGraph.Detours

variable {node : FlowNode} {edge : FlowEdge} {graph graph' : FlowGraph}
  (h : graph.Detours node edge graph')
include h

/-- Walks that go to the same place, or to the new node instead, are matched. -/
theorem matches_of_turns {next next' : Option String}
    (hturns : Turns node.id edge.target next next') :
    graph.Matches (.detour node) graph' next next' :=
  fun _ _ _ _ hwithin => h.walk_adds hturns (.inl rfl) (Nat.le_refl _) hwithin

/-- A graph with a detour is redrawn for all executions that do not stand at the new node. -/
theorem redraws : graph.Redraws (.detour node) (· ≠ some node.id) graph' := by
  refine ⟨h.trigger?_eq, fun other hother hid => h.id_ne hother (Option.some.inj hid),
    fun place hplace => h.bind_node? hplace, fun id hid => h.matches_of_turns (.same _ hid),
    fun id hid => h.matches_of_turns ?_, fun place hplace => h.matches_of_turns ?_⟩
  · exact turns_target (h.firstEdge?_turns fun hsame => hid (congrArg some hsame))
  · cases place with
    | none => exact .same none hplace
    | some id =>
      exact turns_target (h.nextEdge?_turns (fun hsame => hplace (congrArg some hsame)) none)

end FlowGraph.Detours

/-- Flows with a detour are redrawn for all executions but those of the flow at the new node. -/
theorem Flows.Detours.redraws {store store' : Flows} {flow : String} {node : FlowNode}
    {edge : FlowEdge} (h : store.Detours flow node edge store') :
    store.Redraws (.detour node) (fun id place => id = flow → place ≠ some node.id) store' := by
  refine ⟨fun channel => by rw [offered, h.flows, ← offered], fun id => ?_⟩
  have hget : store'.get? id = store.get? id := by rw [get?, h.flows, ← get?]
  rw [load?, load?, hget]
  cases store.get? id with
  | none => exact .none
  | some found =>
    refine .some ?_
    by_cases hid : id = flow
    · subst hid
      simpa using h.graph.redraws
    · rw [h.others id hid]
      exact .refl fun _ _ hflow => absurd hflow hid

/-- Whether an event sets out on no walk that takes more steps than it may. -/
def Event.StaysWithin (w : World) (event : Event) : Prop :=
  ∀ leg w' node, w.walk? event = some (leg, w') → Waypoint.halted node ∉ leg.itinerary w'

namespace World

/-- **Nodes of unknown types are transparent.** Let an edge of a flow make a detour by a new node of
an unknown type at which no active execution stands. Then every run over the detour that takes no
more steps than it may comes to the same as the run without it: every invocation has the same
outcome or the same failure, and all that the run leaves behind is the same, the requests and the
executions included, but for the entries of the new node in the logs. -/
theorem play_detour {w : World} {flows : Flows} {flow : String} {node : FlowNode} {edge : FlowEdge}
    {events : List Event} (hs : w.executions.Sound) (hd : w.flows.Detours flow node edge flows)
    (hstand : ∀ row ∈ w.executions.rows, row.status.isActive = true → row.flowId = flow →
      row.currentNode ≠ some node.id)
    (hkeep : w.Throughout (fun now event => event.KeepsFlows now) events)
    (hwithin : (w.withFlows flows).Throughout (fun now event => event.StaysWithin now)
      (events.map (·.over flows))) :
    (w.withFlows flows).results (events.map (·.over flows)) = w.results events ∧
      ∃ logs, (w.withFlows flows).play (events.map (·.over flows)) =
          (w.play events).redrawn flows logs ∧
        Interspersed (fun logged => logged.2 = node.passedEntry) (w.play events).executions.logs
          logs := by
  have hpermits : (w.withFlows flows).Throughout (Leeway.detour node).Permits
      (events.map (·.over flows)) :=
    hwithin.of_step (fun _ => True) trivial fun now event _ hevent =>
      ⟨fun leg after hwalk halted => hevent leg after halted hwalk, trivial⟩
  have hsame : (Leeway.detour node).Logs w.executions.logs w.executions.logs := .refl _
  exact play_redrawn hd.redraws hkeep (standAt_throughout hs hd.redraws hkeep hstand) hsame hpermits

/-- A flow that ends at once. -/
def shortGraph : FlowGraph where
  nodes := [⟨"t", "trigger", .null⟩, ⟨"e", "end", .null⟩]
  edges := [⟨"t", "e", none, 0⟩]

/-- The flow with a note on its way. -/
def notedGraph : FlowGraph where
  nodes := [⟨"n", "note", .null⟩, ⟨"t", "trigger", .null⟩, ⟨"e", "end", .null⟩]
  edges := [⟨"t", "n", none, 0⟩, ⟨"n", "e", some "", 1⟩]

/-- A world that offers the flow. Walks may take two steps. -/
def shortWorld : World :=
  { World.offering ⟨"f", some "c", .anyMessage, 0, true, true⟩ shortGraph with stepLimit := 2 }

/-- The flow as it is stored with the note. -/
def notedFlows : Flows :=
  Flows.empty.add ⟨"f", some "c", .anyMessage, 0, true, true⟩ notedGraph

/-- The start of the flow. -/
def shortCall : Invocation :=
  .start "f" ⟨some "c", ⟨none, none⟩⟩ "x" ⟨.null, .null, .null, .null, .null, .null⟩ []

/-- The walk on which the start sets out over the note. -/
def notedLeg : Leg :=
  .ofDeparture ⟨notedGraph, ⟨"t", "trigger", .null⟩,
    shortWorld.executions.newRow "f" "x" (some "c") (some "t") []⟩ ⟨none, none⟩
    ⟨.null, .null, .null, .null, .null, .null⟩

theorem notedFlows_detours :
    shortWorld.flows.Detours "f" ⟨"n", "note", .null⟩ ⟨"t", "e", none, 0⟩ notedFlows := by
  have hshort : shortWorld.flows.graphOf "f" = shortGraph := by cbv
  have hnoted : notedFlows.graphOf "f" = notedGraph := by cbv
  refine ⟨rfl, fun id hid => ?_, ?_⟩
  · have hne : ("f" == id) = false := beq_eq_false_iff_ne.2 hid.symm
    simp [Flows.graphOf, notedFlows, shortWorld, World.offering, Flows.add, Flows.empty, hne,
      notedGraph, shortGraph]
  · rw [hshort, hnoted]
    exact ⟨rfl, ⟨⟨"e", "end", .null⟩, by simp [shortGraph], rfl⟩, by decide, rfl, rfl,
      ⟨[], [], rfl, rfl⟩, ⟨⟨"n", "e", some "", 1⟩, rfl, rfl, rfl⟩⟩

theorem shortCall_plan_noted :
    shortCall.plan (shortWorld.withFlows notedFlows) =
      (.walk notedLeg, (shortWorld.withFlows notedFlows).withRow notedLeg.held) := by
  have hgraph : (shortWorld.withFlows notedFlows).flows.load? "f" = some notedGraph := by cbv
  simp only [shortCall, Invocation.plan, World.planStart, hgraph]
  rfl

/-- The start of the flow comes to the same over the note. -/
theorem play_detour_noted :
    (shortWorld.withFlows notedFlows).results [.invoke shortCall] =
        shortWorld.results [.invoke shortCall] ∧
      ∃ logs, (shortWorld.withFlows notedFlows).play [.invoke shortCall] =
          (shortWorld.play [.invoke shortCall]).redrawn notedFlows logs ∧
        Interspersed (fun logged => logged.2 = FlowNode.passedEntry ⟨"n", "note", .null⟩)
          (shortWorld.play [.invoke shortCall]).executions.logs logs := by
  have hsound : shortWorld.executions.Sound := .of_rows_nil rfl
  have hkeep : shortWorld.Throughout (fun now event => event.KeepsFlows now)
      [.invoke shortCall] := ⟨fun _ => Event.noConfusion, trivial⟩
  have hitinerary : notedLeg.itinerary ((shortWorld.withFlows notedFlows).withRow notedLeg.held) =
      [.visited ⟨"n", "note", .null⟩, .visited ⟨"e", "end", .null⟩] := by rfl
  have hwithin : Event.StaysWithin (shortWorld.withFlows notedFlows) (.invoke shortCall) := by
    intro leg after node hwalk
    rw [walk?_of_plan shortCall_plan_noted] at hwalk
    obtain ⟨rfl, rfl⟩ := Prod.mk.inj (Option.some.inj hwalk)
    rw [hitinerary]
    simp
  exact play_detour hsound notedFlows_detours (fun row hrow => absurd hrow List.not_mem_nil) hkeep
    ⟨hwithin, trivial⟩

end World

end ChatFlow

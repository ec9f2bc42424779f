import ChatFlow.Proofs.Engine.Redrawn
import ChatFlow.Proofs.Flow.Order

/-!
# Runs over flows that were added in another order

The engine finds nodes by their ids, triggers by their type, edges by their rank and flows by their
priority. If nothing of this is ambiguous (`Flows.IsUnambiguous`), the order in which flows, nodes
and edges were added is never seen: `World.play_reordered`.
-/

namespace ChatFlow

/-- All walks are compared, and no entry is added. -/
def Leeway.none : Leeway := ⟨fun _ => True, fun _ => False⟩

/-- Graphs that are alike are redrawn without any difference. -/
theorem FlowGraph.Alike.redraws {graph graph' : FlowGraph} (h : graph.Alike graph') :
    graph.Redraws .none (fun _ => True) graph' := by
  have hmatches : ∀ next, graph.Matches .none graph' next next := by
    intro next recipient steps last scene _
    rw [h.walkFrom_eq]
    exact ⟨rfl, rfl, .refl _⟩
  refine ⟨h.trigger?, fun _ _ => trivial, fun place _ => ?_, fun id _ => hmatches _, fun id _ => ?_,
    fun place _ => ?_⟩
  · exact Option.bind_congr fun id _ => h.node? id
  · rw [h.firstTarget?_eq]
    exact hmatches _
  · rw [show place.bind (graph'.nextEdge? · .none) = place.bind (graph.nextEdge? · .none) from
      Option.bind_congr fun id _ => h.nextEdge?_eq id .none]
    exact hmatches _

/-- Flows that were added in another order are redrawn without any difference. -/
theorem Flows.Reorders.redraws {store store' : Flows} (h : store.Reorders store')
    (hu : store.IsUnambiguous) : store.Redraws .none (fun _ _ => True) store' := by
  refine ⟨h.offered_eq hu, fun id => ?_⟩
  have hload := h.load?_alike hu id
  generalize store.load? id = loaded at hload ⊢
  generalize store'.load? id = loaded' at hload ⊢
  cases hload with
  | none => exact .none
  | some halike => exact .some halike.redraws

/-- Flows that were added in another order have the same edges in the same order. -/
theorem Flows.Reorders.edges_load? {store store' : Flows} (h : store.Reorders store')
    (hu : store.IsUnambiguous) (id : String) :
    (store'.load? id).map (·.edges) = (store.load? id).map (·.edges) := by
  have hload := h.load?_alike hu id
  generalize store.load? id = loaded at hload ⊢
  generalize store'.load? id = loaded' at hload ⊢
  cases hload with
  | none => rfl
  | some halike => exact congrArg some halike.edges

namespace World

/-- **The order in which flows were added does not count.** If no two nodes of a flow share an id,
no flow has two triggers, no two edges of a flow share a rank and no two flows of a channel a
priority, then flows that were added in another order have the same edges in the same order, are
offered by the channels in the same order, and every run over them comes to the same: the outcomes
are the same, and so is all that the run leaves behind, the requests and the executions included. -/
theorem play_reordered {w : World} {flows : Flows} (hu : w.flows.IsUnambiguous)
    (hr : w.flows.Reorders flows) :
    (∀ id, (flows.load? id).map (·.edges) = (w.flows.load? id).map (·.edges)) ∧
    (∀ channel, flows.offered channel = w.flows.offered channel) ∧
    ∀ events : List Event, w.Throughout (fun now event => event.KeepsFlows now) events →
      (w.withFlows flows).results (events.map (·.over flows)) = w.results events ∧
      (w.withFlows flows).play (events.map (·.over flows)) = (w.play events).withFlows flows := by
  refine ⟨hr.edges_load? hu, hr.offered_eq hu, fun events hkeep => ?_⟩
  have hstand : w.Throughout (fun now _ => now.StandAt fun _ _ => True) events :=
    (w.throughout_true events).of_step (fun _ => True) trivial
      fun _ _ _ _ => ⟨fun _ _ _ => trivial, trivial⟩
  have hpermits : (w.withFlows flows).Throughout Leeway.none.Permits (events.map (·.over flows)) :=
    (World.throughout_true _ _).of_step (fun _ => True) trivial
      fun _ _ _ _ => ⟨fun _ _ _ => trivial, trivial⟩
  have hsame : Leeway.none.Logs w.executions.logs w.executions.logs := .refl _
  obtain ⟨hresults, logs, hplay, hlogs⟩ :=
    play_redrawn (hr.redraws hu) hkeep hstand hsame hpermits
  refine ⟨hresults, ?_⟩
  rw [show logs = (w.play events).executions.logs from hlogs.eq_of_none fun _ => id] at hplay
  exact hplay

/-- Two flows of a channel, of which one naps before it ends. -/
def napFlows : Flows where
  flows := [⟨"f", some "c", .anyMessage, 1, true, true⟩,
    ⟨"g", some "c", .anyMessage, 0, true, true⟩]
  nodes := [("f", ⟨"t", "trigger", .null⟩), ("g", ⟨"s", "trigger", .null⟩),
    ("f", ⟨"d", "delay", .object [("delay_seconds", .int 1)]⟩), ("f", ⟨"e", "end", .null⟩)]
  edges := [("f", ⟨"t", "d", none, 0⟩), ("f", ⟨"d", "e", none, 1⟩)]

/-- The same flows, added in the opposite order. -/
def flowsNap : Flows :=
  ⟨napFlows.flows.reverse, napFlows.nodes.reverse, napFlows.edges.reverse⟩

/-- A world with these flows. -/
def napWorld : World :=
  { World.offering ⟨"f", some "c", .anyMessage, 1, true, true⟩ ⟨[], []⟩ with flows := napFlows }

/-- The same world a minute later. -/
def napLater : World :=
  { napWorld with outside := { napWorld.outside with clock := ⟨⟨60000000⟩, none⟩ } }

/-- A message, and the wake-up call after the nap. -/
def napEvents : List Event :=
  [.invoke (.inbound ⟨some "c", ⟨none, none⟩⟩ "x" ⟨.null, .null, .null, .null, .null, .null⟩ []),
   .change napLater, .invoke (.timer (Executions.idOf 1) none)]

theorem napFlows_isUnambiguous : napFlows.IsUnambiguous := by
  have htrigger : ∀ id node, (id, node) ∈ napFlows.nodes → node.type = "trigger" →
      node = ⟨if id = "f" then "t" else "s", "trigger", .null⟩ := by
    intro id node hnode ht
    simp only [napFlows, List.mem_cons, List.not_mem_nil, or_false, Prod.mk.injEq] at hnode
    rcases hnode with ⟨rfl, rfl⟩ | ⟨rfl, rfl⟩ | ⟨-, rfl⟩ | ⟨-, rfl⟩
    · rfl
    · rfl
    · exact absurd ht (by decide)
    · exact absurd ht (by decide)
  refine ⟨by decide, fun flow _ a b ha hb hta htb => ?_, by decide, by decide⟩
  rw [htrigger _ a ha hta, htrigger _ b hb htb]

/-- The nap comes to the same with the flows in the opposite order. -/
theorem play_reordered_nap :
    flowsNap.offered (some "c") = napFlows.offered (some "c") ∧
      (napWorld.withFlows flowsNap).results (napEvents.map (·.over flowsNap)) =
        napWorld.results napEvents ∧
      (napWorld.withFlows flowsNap).play (napEvents.map (·.over flowsNap)) =
        (napWorld.play napEvents).withFlows flowsNap := by
  have hr : napFlows.Reorders flowsNap :=
    ⟨List.reverse_perm _, List.reverse_perm _, List.reverse_perm _⟩
  have hkeep : napWorld.Throughout (fun now event => event.KeepsFlows now) napEvents := by
    refine ⟨fun _ => Event.noConfusion, fun world hworld => ?_, fun _ => Event.noConfusion, trivial⟩
    obtain rfl : napLater = world := Event.change.inj hworld
    exact (World.frame_next napWorld _).2.symm
  obtain ⟨-, hoffered, hruns⟩ := play_reordered (w := napWorld) napFlows_isUnambiguous hr
  exact ⟨hoffered (some "c"), hruns napEvents hkeep⟩

end World

end ChatFlow

import ChatFlow.Proofs.Engine.Trail
import ChatFlow.Proofs.Node.Requests

/-!
# The bound on the steps of an invocation

The graph of a flow may have cycles, and what its nodes do to the variables does not keep a walk
from going round for ever. Only the limit of the steps does. An invocation begins the work of at
most so many nodes (`Invocation.visited`) and makes at most one request for each of them, whatever
it comes to. A walk that would go on to one node more is cut off (`Leg.CutOff`): its checkpoint
tells of an execution that completed at the last node that was dispatched
(`Checkpoint.CompletesAt`).

That every invocation ends is not a statement of its own: `Work.exec` is a function, and gives a
result for each.
-/

namespace ChatFlow

/-! ## Walks -/

section

variable {graph : FlowGraph} {recipient : Recipient} {start : Option String} {scene : Scene}
  {stations : List Station} {steps : Nat}

/-- **A walk makes at most one request for each node** whose work it begins, that of a node at which
it fails included. -/
theorem walkFrom_asks (graph : FlowGraph) (recipient : Recipient) (steps : Nat)
    (next last : Option String) (scene : Scene) :
    scene.outside.Asks
      ((itinerary graph recipient steps next scene).filterMap Waypoint.visited?).length
      (walkFrom graph recipient steps next last scene).scene.outside := by
  rw [← map_node_dispatches, List.length_map]
  refine walkFrom_induct (R := fun dispatched before after =>
    before.outside.Asks dispatched.length after.outside) (fun scene => .refl 0 scene.outside)
    (fun hact hrest => ?_) steps next last scene
  exact (((FlowNode.act_asks recipient _).of_run hact).trans hrest).mono (Nat.add_comm 1 _).le

end

/-! ## Cutting a walk off -/

/-- Whether a walk of so many steps is cut off after a trail: there are as many stations, and from
the last of them, or the start, it would go on to a node that exists. -/
structure Leg.CutOff (leg : Leg) (w : World) (steps : Nat) (stations : List Station) : Prop where
  trail : Trail leg.graph leg.recipient leg.next ⟨leg.env, w.outside⟩ stations
  length : stations.length = steps
  goesOn : ∃ node, (heading leg.graph leg.next stations).bind leg.graph.node? = some node

/-- Whether submitting a checkpoint, in any world, either conflicts, because the execution has been
written meanwhile, or stores that it completed at a station with the variables as that left them. -/
def Checkpoint.CompletesAt (c : Checkpoint) (last : Station) : Prop :=
  ∀ w : World, w.executions.Sound →
    ((∀ row ∈ w.executions.rows, Executions.isHeld c.held row = false) ∧
      (Work.submit c).exec w = (.ok ⟨.conflict, some c.held.id, none⟩, w)) ∨
    ∃ w₁ row, (Work.submit c).exec w = (.ok ⟨c.action, some c.held.id, some .completed⟩, w₁) ∧
      w₁.executions.get? c.held.id = some row ∧ row.status = .completed ∧
      row.currentNode = some last.node.id ∧ row.vars = last.after.env.vars

namespace Leg

variable {leg : Leg} {w : World} {stations : List Station}

/-- The nodes whose work a walk begins, in order. -/
def visited (leg : Leg) (w : World) : List FlowNode :=
  (leg.itinerary w).filterMap Waypoint.visited?

/-- A walk makes at most one request for each node whose work it begins. -/
theorem asks (leg : Leg) (w : World) :
    w.outside.Asks (leg.visited w).length (leg.walked w).outside :=
  walkFrom_asks leg.graph leg.recipient _ leg.next leg.held.currentNode _

/-- A walk that is cut off stops because of the limit. -/
theorem CutOff.walk_eq (h : leg.CutOff w (stepsOfLimit w.stepLimit) stations) :
    ∃ node, leg.walk w =
      (Halt.limit node).walk leg.held.currentNode ⟨leg.env, w.outside⟩ stations := by
  obtain ⟨node, hgoes⟩ := h.goesOn
  obtain ⟨id, hid, hnode⟩ := Option.bind_eq_some_iff.1 hgoes
  exact ⟨node, walkFrom_eq h.trail (.limit hid hnode h.length) h.length.le _⟩

/-- A walk that is cut off comes to a checkpoint, of an execution that has completed at the last
station. -/
theorem CutOff.exec_draft (h : leg.CutOff w (stepsOfLimit w.stepLimit) stations) {last : Station}
    (hlast : stations.getLast? = some last) :
    ∃ c : Checkpoint, leg.draft.exec w = (.ok c, leg.walked w) ∧
      (c.held = leg.held ∧ c.action = leg.action) ∧ c.CompletesAt last := by
  obtain ⟨node, hwalk⟩ := h.walk_eq
  obtain ⟨patch, hpatch, hstatus, hnode, hvars⟩ : ∃ patch, leg.patch? w = .ok patch ∧
      patch.status = some .completed ∧ patch.currentNode = some (some last.node.id) ∧
      patch.vars = some last.after.env.vars := by
    rw [patch?, hwalk]
    simp only [Walk.patch?, Halt.walk, lastNode, lastScene, hlast]
    exact ⟨_, rfl, rfl, rfl, rfl⟩
  refine ⟨⟨leg.held, patch, leg.entries w, leg.action⟩, ?_, ⟨rfl, rfl⟩, fun after hs => ?_⟩
  · rw [Leg.exec_draft, hpatch]
    rfl
  rcases Work.exec_submit_cases ⟨leg.held, patch, leg.entries w, leg.action⟩ hs with
    hconflict | ⟨row, -, -, w₁, hexec, -, hget⟩
  · exact .inl hconflict
  · refine .inr ⟨w₁, _, ?_, hget, ?_, ?_, ?_⟩
    · rw [hexec]
      simp only [Patch.apply, hstatus, Option.getD_some]
    · simp only [Patch.apply, hstatus, Option.getD_some]
    · simp only [Patch.apply, hnode, Option.getD_some]
    · simp only [Patch.apply, hvars, Option.getD_some]

end Leg

/-! ## Invocations -/

namespace Invocation

variable {w : World}

/-- The nodes whose work an invocation begins, in order. -/
def visited (w : World) (call : Invocation) : List FlowNode :=
  match Plan.leg? (call.plan w) with
  | some (leg, w') => leg.visited w'
  | none => []

theorem visited_of_plan {call : Invocation} {leg : Leg} {w' : World}
    (h : call.plan w = (.walk leg, w')) : call.visited w = leg.visited w' := by
  rw [visited, h]
  rfl

end Invocation

namespace Invocation

variable {w : World}

/-- **An invocation makes at most one request for each node** whose work it begins. -/
theorem asks (call : Invocation) (w : World) :
    w.outside.Asks (call.visited w).length (call.perform.exec w).2.outside := by
  have hwalked : ∀ {leg : Leg} {w' : World}, call.plan w = (.walk leg, w') →
      SetsOut w call leg w' →
      w.outside.Asks (call.visited w).length (leg.walked w').outside := by
    intro leg w' hplan hl
    rw [visited_of_plan hplan, ← hl.outside_eq]
    exact leg.asks w'
  have hmakes := call.makes w
  generalize call.perform.exec w = made at hmakes ⊢
  cases hmakes with
  | nothing | note => exact .refl _ _
  | failure leg w' failure hplan hl hp => exact hwalked hplan hl
  | walk leg w' patch hplan hl hp => exact hwalked hplan hl

end Invocation

end ChatFlow

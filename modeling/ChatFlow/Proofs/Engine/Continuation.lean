import ChatFlow.Proofs.Engine.Dialogue
import ChatFlow.Proofs.Engine.Events

/-!
# The store is all that is remembered

The engine works on one message at a time and keeps nothing between messages but a row of the store.
`World.converses_iff` says that this is enough: to one who looks at the nodes whose work is begun,
at what is sent, and at the status and the variables of the execution, it behaves as the interpreter
of dialogues that never lets go of what it knows.

The invariant is `World.Mirrors`: as long as a question is open, the customer has one active row,
and it tells all that the interpreter knows; otherwise there is none.
-/

namespace ChatFlow

/-! ## Walks are journeys -/

/-- Whether a node waits for a timer: delays do, and nodes that ask for a reply in their name. -/
def FlowNode.isTimed (node : FlowNode) : Bool :=
  match node.configured? with
  | some (.delay _) => true
  | some (.waitForReply expected _) => expected == timerReason
  | _ => false

/-- A node that waits, and not for a timer, waits for a message. -/
theorem FlowNode.wait_of_not_isTimed {node : FlowNode} {recipient : Recipient}
    {before after : Scene} {result : NodeResult} {reason : String} {resumeAt : Option ZonedMoment}
    (h : (node.act recipient).run.run before = (.ok result, after))
    (hw : result.next = .wait reason resumeAt) (ht : node.isTimed = false) :
    resumeAt = none ∧ reason ≠ timerReason ∧ ∃ reply, node.replyVariable? = .ok reply := by
  obtain ⟨config, hconfig, hleads⟩ := leads_of_wait recipient h hw
  have hreply := replyVariable?_of_configured hconfig
  rw [isTimed, hconfig] at ht
  cases config with
  | waitForReply expected variableName =>
    cases hleads
    exact ⟨rfl, by simpa using ht, _, hreply⟩
  | delay seconds => cases ht
  | condition | loop | randomChoice =>
    obtain ⟨_, hleave⟩ := hleads
    cases hleave
  | _ => cases hleads

/-- Whether a walk can meet something in a dialogue without timers, if it may take as many steps as
it likes. -/
def Waypoint.isUntimed : Waypoint → Bool
  | .visited node => !node.isTimed
  | .halted _ => false
  | .missing _ => true

/-- Whether a walk ends where a journey does. -/
inductive Stop.Ends (graph : FlowGraph) : Stop → WalkEnd → Prop where
  | done (last : Option String) : Ends graph .done (.completed last)
  | asks {node : FlowNode} {reason : String} {reply : Option String}
      (hn : graph.node? node.id = some node) (ht : reason ≠ timerReason)
      (hr : node.replyVariable? = .ok reply) :
      Ends graph (.asks node) (.parked node.id reason none)

/-- **A walk is a journey**, if it does not fail, meets nothing that waits for a timer, and is not
halted. -/
theorem travels_walkFrom {graph : FlowGraph} {recipient : Recipient} {steps : Nat}
    {next last : Option String} {scene : Scene}
    (hm : ∀ point ∈ itinerary graph recipient steps next scene, point.isUntimed = true)
    (hf : ∀ node cause, (walkFrom graph recipient steps next last scene).ending ≠
      .failed node cause) :
    ∃ stop, Travels graph recipient next scene
        ((itinerary graph recipient steps next scene).filterMap Waypoint.visited?) stop
        (walkFrom graph recipient steps next last scene).scene ∧
      stop.Ends graph (walkFrom graph recipient steps next last scene).ending := by
  fun_induction walkFrom graph recipient steps next last scene with
  | case1 steps next last scene hnone =>
    have hnodes :
        (itinerary graph recipient steps next scene).filterMap Waypoint.visited? = [] := by
      rw [itinerary, hnone]
      cases next <;> rfl
    rw [hnodes]
    exact ⟨.done, .deadEnd hnone, .done last⟩
  | case2 next last scene node hnode =>
    rw [itinerary, hnode] at hm
    cases hm _ (List.mem_singleton_self _)
  | case3 next last scene node hnode steps cause after hact => exact absurd rfl (hf node cause)
  | case4 next last scene node hnode steps result after hact entry reason resumeAt hwait =>
    have hmet : itinerary graph recipient (steps + 1) next scene = [.visited node] := by
      rw [itinerary, hnode]
      simp only [hact, hwait]
    rw [hmet] at hm ⊢
    have huntimed : node.isTimed = false := by
      simpa [Waypoint.isUntimed] using hm _ (List.mem_singleton_self _)
    obtain ⟨rfl, hreason, reply, hreply⟩ := node.wait_of_not_isTimed hact hwait huntimed
    obtain ⟨id, -, hid⟩ := Option.bind_eq_some_iff.1 hnode
    have hown : graph.node? node.id = some node := by rw [FlowGraph.node?_id hid, hid]
    exact ⟨.asks node, .asks hnode hact hwait, .asks hown hreason hreply⟩
  | case5 next last scene node hnode steps result after hact entry hfinish =>
    have hmet : itinerary graph recipient (steps + 1) next scene = [.visited node] := by
      rw [itinerary, hnode]
      simp only [hact, hfinish]
    rw [hmet]
    exact ⟨.done, .finishes hnode hact hfinish, .done _⟩
  | case6 next last scene node hnode steps result after hact entry handle hleave target rest ih =>
    have hmet : itinerary graph recipient (steps + 1) next scene =
        .visited node :: itinerary graph recipient steps target after := by
      rw [itinerary, hnode]
      simp only [hact, hleave]
      rfl
    rw [hmet] at hm ⊢
    obtain ⟨stop, htravels, hends⟩ := ih (fun point hp => hm point (List.mem_cons_of_mem _ hp)) hf
    exact ⟨stop, .leaves hnode hact hleave htravels, hends⟩

/-- Whether an execution tells that a node of a graph has asked for a reply. -/
structure Execution.Awaits (row : Execution) (graph : FlowGraph) (node : FlowNode) : Prop where
  status : row.status = .waiting
  reason : row.waitingFor ≠ some timerReason
  current : row.currentNode = some node.id
  found : graph.node? node.id = some node
  readable : ∃ reply, node.replyVariable? = .ok reply

/-- The end of a journey is written to the execution. -/
theorem Stop.Ends.patch? {graph : FlowGraph} {stop : Stop} {walk : Walk}
    (h : stop.Ends graph walk.ending) (now : Moment) (held : Execution) :
    ∃ patch, walk.patch? now = .ok patch ∧ (patch.apply held).status = stop.status ∧
      (patch.apply held).vars = walk.scene.env.vars ∧
      ∀ node, stop = .asks node → (patch.apply held).Awaits graph node := by
  obtain ⟨ending, entries, scene⟩ := walk
  dsimp only at h
  cases h with
  | done last => exact ⟨_, rfl, rfl, rfl, fun node => Stop.noConfusion⟩
  | @asks node reason reply hn ht hr =>
    refine ⟨_, rfl, rfl, rfl, fun other he => ?_⟩
    cases he
    exact ⟨rfl, fun heq => ht (Option.some.inj heq), rfl, hn, reply, hr⟩

/-! ## What can be seen of the engine -/

/-- The message of an arrival, as the engine gets it. -/
def Arrival.call (arrival : Arrival) (channel : ChannelAccess) (customer : String) : Invocation :=
  .inbound channel customer arrival.message arrival.initial

namespace World

/-- The world when a message arrives. -/
def meet (w : World) (arrival : Arrival) : World :=
  { w with outside := arrival.meanwhile w.outside }

/-- What the walk of an invocation meets, if it sets out on one. -/
def met (w : World) (call : Invocation) : List Waypoint :=
  match w.walk? (.invoke call) with
  | some (leg, w') => leg.itinerary w'
  | none => []

/-- What can be seen of an invocation. -/
def turn (w : World) (call : Invocation) : Turn where
  nodes := (w.met call).filterMap Waypoint.visited?
  sent := (w.next (.invoke call)).outside.provider.requests
  left := (call.perform.exec w).1.map fun outcome =>
    (outcome.execution.bind (w.next (.invoke call)).executions.get?).map fun row =>
      (row.status, row.vars)

/-- What can be seen of the engine while messages of a customer arrive on a channel. -/
def turns (channel : ChannelAccess) (customer : String) (w : World) : List Arrival → List Turn
  | [] => []
  | arrival :: arrivals =>
    let call := arrival.call channel customer
    (w.meet arrival).turn call :: turns channel customer ((w.meet arrival).next (.invoke call))
      arrivals

/-- Whether an invocation goes on without trouble: no node fails, none waits for a timer, and no
walk is halted. -/
structure Untroubled (w : World) (call : Invocation) : Prop where
  performs : ∀ id type cause, (call.perform.exec w).1 ≠ .error (.node id type cause)
  meets : ∀ point ∈ w.met call, point.isUntimed = true

/-- Whether an execution is the one active row of a customer on a channel, and is of a flow with a
graph. -/
structure Occupied (w : World) (channel : ChannelAccess) (customer : String) (graph : FlowGraph)
    (held : Execution) : Prop where
  mem : held ∈ w.executions.rows
  active : Executions.isActiveOf customer channel.id held = true
  only : ∀ row ∈ w.executions.rows,
    Executions.isActiveOf customer channel.id row = true → row = held
  load : w.flows.load? held.flowId = some graph

/-- Whether the store tells what the interpreter knows. -/
inductive Mirrors (w : World) (channel : ChannelAccess) (customer : String) : Stand → Prop where
  | idle (h : ∀ row ∈ w.executions.rows, Executions.isActiveOf customer channel.id row = false) :
      Mirrors w channel customer .idle
  | asked {graph : FlowGraph} {node : FlowNode} {held : Execution}
      (ho : w.Occupied channel customer graph held) (hw : held.Awaits graph node) :
      Mirrors w channel customer (.asked graph node held.vars)

variable {w w' : World} {channel : ChannelAccess} {customer : String} {call : Invocation}
  {leg : Leg}

/-- The store mirrors what the interpreter knows after the end of a journey was written. -/
theorem mirrors_withWritten {held : Execution} {graph : FlowGraph} {stop : Stop} {patch : Patch}
    (entries : List LogEntry) (hs : w.executions.Sound)
    (ho : w.Occupied channel customer graph held)
    (hstatus : (patch.apply held).status = stop.status)
    (hw : ∀ node, stop = .asks node → (patch.apply held).Awaits graph node) :
    (w.withWritten held patch entries).Mirrors channel customer
      (stop.stand graph (patch.apply held).vars) := by
  have hmem : ∀ row ∈ (w.withWritten held patch entries).executions.rows,
      Executions.isActiveOf customer channel.id row = true → row = patch.apply held := by
    intro row hrow hactive
    rcases (hs.mem_rewrite_iff ho.mem).1 hrow with rfl | ⟨hold, hid⟩
    · rfl
    · exact absurd (congrArg Execution.id (ho.only row hold hactive)) hid
  cases stop with
  | done =>
    refine .idle fun row hrow => Bool.not_eq_true _ ▸ fun hactive => ?_
    have hcompleted := hmem row hrow hactive
    subst hcompleted
    simp only [Executions.isActiveOf, hstatus] at hactive
    simp [Stop.status, ExecutionStatus.isActive] at hactive
  | asks node =>
    have hactive : Executions.isActiveOf customer channel.id (patch.apply held) = true := by
      have hbefore := ho.active
      simp only [Executions.isActiveOf, Bool.and_eq_true] at hbefore ⊢
      refine ⟨hbefore.1, ?_⟩
      rw [hstatus]
      rfl
    exact .asked ⟨(hs.mem_rewrite_iff ho.mem).2 (.inl rfl), hactive, hmem, ho.load⟩ (hw node rfl)

/-- What can be seen of an invocation whose walk is written. -/
theorem turn_of_patch? {patch : Patch} (hs : w.executions.Sound)
    (hwalk : w.walk? (.invoke call) = some (leg, w')) (hpatch : leg.patch? w' = .ok patch) :
    w.turn call = ⟨(leg.itinerary w').filterMap Waypoint.visited?,
      (leg.walk w').scene.outside.provider.requests,
      .ok (some ((patch.apply leg.held).status, (patch.apply leg.held).vars))⟩ := by
  obtain ⟨_, hcall, hplan, hl⟩ := walk?_some hwalk
  cases hcall
  have hperform : call.perform.exec w =
      (.ok ⟨leg.action, some leg.held.id, some (patch.apply leg.held).status⟩,
        (leg.walked w').withWritten leg.held patch (leg.entries w')) := by
    rw [call.perform_eq_plan, hplan, Plan.exec_walk hl.held_mem, hpatch]
  have hget : ((leg.walked w').withWritten leg.held patch
      (leg.entries w')).executions.get? leg.held.id = some (patch.apply leg.held) := by
    rw [withWritten, (hl.sound_walked hs).get?_written hl.held_mem_walked, if_pos rfl]
  rw [turn, met, next, hwalk, hperform]
  refine congrArg (Turn.mk _ _) ?_
  show Except.ok ((((leg.walked w').withWritten leg.held patch
    (leg.entries w')).executions.get? leg.held.id).map _) = _
  rw [hget]
  rfl

/-- A walk without trouble is a journey, and its end is written. -/
theorem Untroubled.travels (h : w.Untroubled call) (hplan : call.plan w = (.walk leg, w')) :
    ∃ stop patch, Travels leg.graph leg.recipient leg.next ⟨leg.env, w'.outside⟩
        ((leg.itinerary w').filterMap Waypoint.visited?) stop (leg.walk w').scene ∧
      leg.patch? w' = .ok patch ∧ (patch.apply leg.held).status = stop.status ∧
      (patch.apply leg.held).vars = (leg.walk w').scene.env.vars ∧
      ∀ node, stop = .asks node → (patch.apply leg.held).Awaits leg.graph node := by
  have hperform := call.perform_eq_plan w
  rw [hplan, Plan.exec_walk (call.setsOut hplan).held_mem] at hperform
  have hmet : w.met call = leg.itinerary w' := by rw [met, walk?_of_plan hplan]
  obtain ⟨stop, htravels, hends⟩ := travels_walkFrom (hmet ▸ h.meets) fun node cause he => by
    have hpatch : leg.patch? w' = .error (.node node.id node.type cause) := by
      rw [Leg.patch?, Walk.patch?, Leg.walk, he]
    rw [hpatch] at hperform
    exact h.performs _ _ _ (congrArg Prod.fst hperform)
  obtain ⟨patch, hpatch⟩ := hends.patch? (leg.walked w').outside.clock.now leg.held
  exact ⟨stop, patch, htravels, hpatch⟩

/-- **An invocation that walks answers as the interpreter does**, and the store mirrors afterwards
what the interpreter knows. -/
theorem Untroubled.walks (h : w.Untroubled call) (hs : w.executions.Sound)
    (hplan : call.plan w = (.walk leg, w'))
    (ha : Executions.isActiveOf customer channel.id leg.held = true)
    (honly : ∀ row ∈ w'.executions.rows,
      Executions.isActiveOf customer channel.id row = true → row = leg.held) :
    ∃ nodes stop after,
      Travels leg.graph leg.recipient leg.next ⟨leg.env, w'.outside⟩ nodes stop after ∧
      w.turn call = stop.turn nodes after ∧
      (w.next (.invoke call)).outside = after.outside ∧
      (w.next (.invoke call)).Mirrors channel customer (stop.stand leg.graph after.env.vars) := by
  have hl := call.setsOut hplan
  have hwalk := walk?_of_plan hplan
  obtain ⟨stop, patch, htravels, hpatch, hstatus, hvars, hawaits⟩ := h.travels hplan
  have hafter : w.next (.invoke call) =
      (leg.walked w').withWritten leg.held patch (leg.entries w') := by
    rw [next_of_walk? hwalk, hpatch]
  have hoccupied : (leg.walked w').Occupied channel customer leg.graph leg.held :=
    ⟨hl.held_mem_walked, ha, (leg.keeps_walked w').rows ▸ honly,
      (congrArg (Flows.load? · leg.held.flowId) hl.flows_eq).trans hl.load?_eq⟩
  refine ⟨_, stop, _, htravels, ?_, by rw [hafter]; rfl, ?_⟩
  · rw [turn_of_patch? hs hwalk hpatch, hstatus, hvars]
    rfl
  · rw [hafter, ← hvars]
    exact mirrors_withWritten _ (hl.sound_walked hs) hoccupied hstatus hawaits

/-! ## From message to message -/

/-- The start of a flow for a customer without an active execution. -/
theorem planStart_of_idle (flow : String) (message : InboundMessage) (initial : Object)
    (h : w.executions.findActive? customer channel.id = none) :
    w.planStart flow channel customer message initial =
      match w.flows.opening flow with
      | .error failure => (.block flow failure, w)
      | .ok (graph, trigger) =>
        let row := w.executions.newRow flow customer channel.id (some trigger.id)
          (initial.update message.observed)
        (.walk (.ofDeparture ⟨graph, trigger, row⟩ channel.credentials message),
          w.withRow row) := by
  have hadmits : w.executions.admits customer channel.id = true := by
    rw [Executions.admits, h, Option.isNone_none, Bool.or_true]
  unfold planStart Flows.opening
  cases w.flows.load? flow with
  | none => rfl
  | some graph =>
    dsimp only
    cases graph.trigger? with
    | none => rfl
    | some trigger => simp only [hadmits, if_true]

namespace Mirrors

variable {stand : Stand} (hm : w.Mirrors channel customer stand)

include hm

/-- What happens outside changes nothing in the store. -/
theorem meet (arrival : Arrival) : (w.meet arrival).Mirrors channel customer stand := by
  cases hm with
  | idle hidle => exact .idle hidle
  | asked ho hw => exact .asked ⟨ho.mem, ho.active, ho.only, ho.load⟩ hw

end Mirrors

end World

/-- A flow that asks for a reply and ends. -/
def questionGraph : FlowGraph where
  nodes := [⟨"t", "trigger", .null⟩, ⟨"q", "waitForReply", .null⟩, ⟨"e", "end", .null⟩]
  edges := [⟨"t", "q", none, 0⟩, ⟨"q", "e", none, 1⟩]

/-- A world that offers the flow. -/
def questionWorld : World := .offering ⟨"f", some "c", .anyMessage, 0, true, true⟩ questionGraph

/-- The channel on which it does. -/
def questionChannel : ChannelAccess := ⟨some "c", ⟨none, none⟩⟩

/-- Text messages that arrive at once. -/
def saying (text : String) : Arrival :=
  ⟨id, ⟨.text "text", .text text, .null, .null, .null, .null⟩, []⟩

end ChatFlow

import ChatFlow.Proofs.Engine.Course
import ChatFlow.Proofs.Engine.Itinerary

/-!
# What an invocation sets out to do

An invocation first decides what is to be done and then does it. `Invocation.plan` is the decision:
an answer, a refusal, a message to be noted, or a walk with an execution (`Leg`); with it comes the
world in which it is carried out, where a new execution has been created or a wake-up call been
asked for again. `Plan.carryOut` is the rest of the work. `Invocation.perform_eq_plan` says that the
two make up the engine's work, so a plan tells which nodes an invocation dispatches and why.
-/

namespace ChatFlow

/-- A walk that is to be taken with an execution: in which graph, for whom, with which variables,
from which node, after which entries for the log, and what it counts as. -/
structure Leg where
  graph : FlowGraph
  held : Execution
  credentials : Credentials
  env : Env
  next : Option String
  before : List LogEntry
  action : Action

namespace Leg

/-- The customer on whose behalf a walk is taken. -/
def recipient (leg : Leg) : Recipient := ⟨leg.held.customerId, leg.held.channelId, leg.credentials⟩

/-- The work of a walk. -/
def draft (leg : Leg) : Work Checkpoint :=
  Work.run leg.graph leg.held leg.credentials leg.env leg.next leg.before leg.action

/-- The walk itself. -/
def walk (leg : Leg) (w : World) : Walk :=
  walkFrom leg.graph leg.recipient (stepsOfLimit w.stepLimit) leg.next leg.held.currentNode
    ⟨leg.env, w.outside⟩

/-- What the walk meets. -/
def itinerary (leg : Leg) (w : World) : List Waypoint :=
  ChatFlow.itinerary leg.graph leg.recipient (stepsOfLimit w.stepLimit) leg.next
    ⟨leg.env, w.outside⟩

/-- The walk on from a node that asked for a reply, by the first edge out of it. -/
def ofReply (graph : FlowGraph) (held : Execution) (credentials : Credentials)
    (message : InboundMessage) (node : FlowNode) (reply : Option String) : Leg where
  graph
  held
  credentials
  env := bindReply (.ofVariables (held.after message)) reply message.text
  next := graph.firstTarget? node.id
  before := [node.entry [("resumed", .bool true), ("reply", message.text)]]
  action := .resumed

/-- The walk of an execution whose node is gone: it ends at once. -/
def ofStranded (graph : FlowGraph) (held : Execution) (credentials : Credentials)
    (message : InboundMessage) : Leg where
  graph
  held
  credentials
  env := .ofVariables (held.after message)
  next := none
  before := []
  action := .resumed

/-- The walk of an execution whose last walk failed: from the node where it stands, or from the one
after it if it is the trigger. -/
def ofRestart (graph : FlowGraph) (held : Execution) (credentials : Credentials)
    (message : InboundMessage) : Leg where
  graph
  held
  credentials
  env := .ofVariables (held.after message)
  next := (held.currentNode.bind graph.node?).bind fun node =>
    if node.type == "trigger" then graph.firstTarget? node.id else some node.id
  before := []
  action := .resumed

/-- The first walk of an execution, from its trigger. -/
def ofDeparture (departure : Departure) (credentials : Credentials) (message : InboundMessage) :
    Leg where
  graph := departure.graph
  held := departure.held
  credentials
  env := .ofVariables departure.held.vars
  next := departure.graph.firstTarget? departure.trigger.id
  before := [departure.trigger.entry [("triggered", .bool true), ("message", message.text)]]
  action := .started

/-- The walk of an execution whose timer is due. -/
def ofTimer (graph : FlowGraph) (held : Execution) (credentials : Credentials) : Leg where
  graph
  held
  credentials
  env := .ofVariables held.vars
  next := (held.currentNode.bind (graph.nextEdge? · none)).map (·.target)
  before := [⟨held.currentNode, some "delay", .object [("timer_fired", .bool true)]⟩]
  action := .resumed

end Leg

/-- What an invocation sets out to do. -/
inductive Plan where
  | answer (outcome : Outcome)
  /-- No flow can be chosen. -/
  | refuse (failure : Failure)
  /-- A flow cannot be walked: it is missing, has no trigger, or the node that asked for a reply
  cannot be read. -/
  | block (flow : String) (failure : Failure)
  /-- A message comes during a timer. -/
  | note (held : Execution) (message : InboundMessage)
  | walk (leg : Leg)

namespace Plan

/-- The work of a plan. -/
def carryOut : Plan → Work Outcome
  | .answer outcome => return outcome
  | .refuse failure | .block _ failure => throw failure
  | .note held message => Work.submit (Work.recordDuringTimer held message)
  | .walk leg => do Work.submit (← leg.draft)

/-- A walk in the graph of a flow, if there is such a flow. -/
def inFlow (w : World) (flow : String) (next : FlowGraph → Plan) : Plan :=
  (w.flows.load? flow).elim (.block flow (.unknownFlow flow)) next

/-- What is to be done with a message for an execution that waits for one. -/
def ofReply (graph : FlowGraph) (held : Execution) (credentials : Credentials)
    (message : InboundMessage) : Plan :=
  match held.currentNode.bind graph.node? with
  | none => .walk (.ofStranded graph held credentials message)
  | some node =>
    match node.replyVariable? with
    | .error failure => .block held.flowId failure
    | .ok reply => .walk (.ofReply graph held credentials message node reply)

/-- What is to be done with a message for an active execution. -/
def ofMessage (w : World) (held : Execution) (credentials : Credentials)
    (message : InboundMessage) : Plan :=
  if held.waitsForTimer then .note held message
  else
    inFlow w held.flowId fun graph =>
      if held.status = .waiting then ofReply graph held credentials message
      else .walk (.ofRestart graph held credentials message)

end Plan

namespace World

/-- What the start of a flow sets out to do. -/
def planStart (w : World) (flow : String) (channel : ChannelAccess) (customer : String)
    (message : InboundMessage) (initial : Object) : Plan × World :=
  match w.flows.load? flow with
  | none => (.block flow (.unknownFlow flow), w)
  | some graph =>
    match graph.trigger? with
    | none => (.block flow (.noTrigger flow), w)
    | some trigger =>
      let row := w.executions.newRow flow customer channel.id (some trigger.id)
        (initial.update message.observed)
      if w.executions.admits customer channel.id then
        (.walk (.ofDeparture ⟨graph, trigger, row⟩ channel.credentials message), w.withRow row)
      else
        let barred := w.withAttempts (w.executions.attempts + 1)
        match w.executions.findActive? customer channel.id with
        | none => (.answer ⟨.conflict, none, none⟩, barred)
        | some held =>
          if held.status = .waiting then
            (.ofMessage barred held channel.credentials message, barred)
          else (.answer ⟨.conflict, some held.id, some held.status⟩, barred)

/-- What a message sets out to do. -/
def planInbound (w : World) (channel : ChannelAccess) (customer : String)
    (message : InboundMessage) (initial : Object) : Plan × World :=
  match w.executions.findActive? customer channel.id with
  | some held => (.ofMessage w held channel.credentials message, w)
  | none =>
    match firstStarted? message.text (w.flows.offered channel.id) with
    | .error failure => (.refuse failure, w)
    | .ok none => (.answer ⟨.noMatch, none, none⟩, w)
    | .ok (some flow) => w.planStart flow.id channel customer message initial

/-- What a wake-up call sets out to do. -/
def planTimer (w : World) (id : String) (version : Option Int) : Plan × World :=
  match w.executions.get? id with
  | none => (.answer ⟨.ignored, some id, none⟩, w)
  | some held =>
    let ignored := Plan.answer ⟨.ignored, some id, some held.status⟩
    if !held.waitsForTimer || version.any (· != (held.version : Int)) then (ignored, w)
    else if Work.tooEarly w.outside.clock.now held.resumeAt then
      (ignored,
        { w with timers := w.timers.ask held (timeLeft w.outside.clock.now held.resumeAt) })
    else
      (.inFlow w held.flowId fun graph =>
        .walk (.ofTimer graph held (w.channels.credentials held.channelId)), w)

end World

/-- What an invocation sets out to do, and the world in which that is done. -/
def Invocation.plan (w : World) : Invocation → Plan × World
  | .inbound channel customer message initial => w.planInbound channel customer message initial
  | .start flow channel customer message initial =>
    w.planStart flow channel customer message initial
  | .timer id version => w.planTimer id version

/-! ## Plans are what the engine does -/

variable {w : World}

theorem Execution.waitsForTimer_iff {held : Execution} :
    held.waitsForTimer = true ↔ held.status = .waiting ∧ held.waitingFor = some timerReason := by
  simp [waitsForTimer]

/-- The variable for the reply can be told of a node that can be read. -/
theorem FlowNode.replyVariable?_of_configured {node : FlowNode} {config : NodeConfig}
    (h : node.configured? = some config) : node.replyVariable? = .ok config.replyVariable? := by
  obtain ⟨type, htype, hconfig⟩ := Option.bind_eq_some_iff.1 h
  unfold replyVariable?
  rw [htype]
  cases hread : type.configure node.config with
  | error report =>
    rw [hread] at hconfig
    cases hconfig
  | ok read =>
    rw [hread] at hconfig
    cases hconfig
    simp only [hread]

namespace Plan

/-- Without its flow nothing can be done with an execution. -/
theorem ofMessage_of_load?_none {held : Execution} (credentials : Credentials)
    (message : InboundMessage) (hw : ¬ held.waitsForTimer = true)
    (hg : w.flows.load? held.flowId = none) :
    ofMessage w held credentials message = .block held.flowId (.unknownFlow held.flowId) := by
  rw [ofMessage, if_neg hw, inFlow, hg]
  rfl

/-- An execution that does not wait for a timer goes on in the graph of its flow. -/
theorem ofMessage_of_load?_some {held : Execution} {graph : FlowGraph} (credentials : Credentials)
    (message : InboundMessage) (hw : ¬ held.waitsForTimer = true)
    (hg : w.flows.load? held.flowId = some graph) :
    ofMessage w held credentials message =
      if held.status = .waiting then ofReply graph held credentials message
      else .walk (.ofRestart graph held credentials message) := by
  rw [ofMessage, if_neg hw, inFlow, hg]
  rfl

end Plan

/-- What a message for an active execution can come to before anything is written, and the plan that
tells so. -/
inductive Continued (w : World) (held : Execution) (credentials : Credentials)
    (message : InboundMessage) : Except Failure Checkpoint × World → Prop where
  | notes (hw : held.waitsForTimer = true)
      (hplan : Plan.ofMessage w held credentials message = .note held message) :
      Continued w held credentials message (.ok (Work.recordDuringTimer held message), w)
  | blocked (failure : Failure)
      (hplan : Plan.ofMessage w held credentials message = .block held.flowId failure) :
      Continued w held credentials message (.error failure, w)
  | walks (leg : Leg) (hplan : Plan.ofMessage w held credentials message = .walk leg) :
      Continued w held credentials message (leg.draft.exec w)

namespace Work

/-- An execution that waits for a reply goes on as the message plans it. -/
theorem resume_continued {held : Execution} (credentials : Credentials) (message : InboundMessage)
    (hw : ¬ held.waitsForTimer = true) (hs : held.status = .waiting) :
    Continued w held credentials message ((resume held credentials message).exec w) := by
  rw [resume, exec_bind, exec_graphOf]
  cases hg : w.flows.load? held.flowId with
  | none => exact .blocked _ (Plan.ofMessage_of_load?_none credentials message hw hg)
  | some graph =>
  have hplan : Plan.ofMessage w held credentials message =
      Plan.ofReply graph held credentials message :=
    (Plan.ofMessage_of_load?_some credentials message hw hg).trans (if_pos hs)
  rw [Plan.ofReply] at hplan
  rw [Option.elim_some, proceed_ok]
  cases hn : held.currentNode.bind graph.node? with
  | none =>
    rw [hn] at hplan
    exact .walks (.ofStranded graph held credentials message) hplan
  | some node =>
    rw [hn] at hplan
    dsimp only at hplan ⊢
    rw [exec_bind, exec_ofExcept]
    cases hreply : node.replyVariable? with
    | error failure =>
      rw [hreply] at hplan
      exact .blocked failure hplan
    | ok reply =>
      rw [hreply] at hplan
      exact .walks (.ofReply graph held credentials message node reply) hplan

/-- A running execution goes on as the message plans it. -/
theorem restart_continued {held : Execution} (credentials : Credentials) (message : InboundMessage)
    (hw : ¬ held.waitsForTimer = true) (hs : ¬ held.status = .waiting) :
    Continued w held credentials message ((restart held credentials message).exec w) := by
  rw [restart, exec_bind, exec_graphOf]
  cases hg : w.flows.load? held.flowId with
  | none => exact .blocked _ (Plan.ofMessage_of_load?_none credentials message hw hg)
  | some graph =>
    exact .walks (.ofRestart graph held credentials message)
      ((Plan.ofMessage_of_load?_some credentials message hw hg).trans (if_neg hs))

/-- Going on with an active execution is planned by the message. -/
theorem continueWith_continued (held : Execution) (credentials : Credentials)
    (message : InboundMessage) (w : World) :
    Continued w held credentials message ((continueWith held credentials message).exec w) := by
  by_cases hs : held.status = .waiting
  · by_cases hr : held.waitingFor = some timerReason
    · have hw : held.waitsForTimer = true := Execution.waitsForTimer_iff.2 ⟨hs, hr⟩
      rw [continueWith, if_pos hs, if_pos hr]
      exact .notes hw (if_pos hw)
    · rw [continueWith, if_pos hs, if_neg hr]
      exact resume_continued credentials message
        (fun hw => hr (Execution.waitsForTimer_iff.1 hw).2) hs
  · rw [continueWith, if_neg hs]
    exact restart_continued credentials message
      (fun hw => hs (Execution.waitsForTimer_iff.1 hw).1) hs

/-- Going on with an active execution is its plan, carried out. -/
theorem exec_continueWith (held : Execution) (credentials : Credentials)
    (message : InboundMessage) (w : World) :
    (continueWith held credentials message >>= submit).exec w =
      (Plan.ofMessage w held credentials message).carryOut.exec w := by
  have hcontinued := continueWith_continued held credentials message w
  rw [exec_bind]
  generalize (continueWith held credentials message).exec w = drafted at hcontinued ⊢
  cases hcontinued with
  | notes hw hplan | blocked failure hplan =>
    rw [hplan]
    rfl
  | walks leg hplan =>
    rw [hplan]
    exact (exec_bind _ _ w).symm

/-- The start of a flow is what it sets out to do. -/
theorem exec_startFlow (flow : String) (channel : ChannelAccess) (customer : String)
    (message : InboundMessage) (initial : Object) (w : World) :
    (startFlow flow channel customer message initial).exec w =
      (w.planStart flow channel customer message initial).1.carryOut.exec
        (w.planStart flow channel customer message initial).2 := by
  rw [startFlow, exec_bind, exec_openFlow, World.planStart]
  cases w.flows.load? flow with
  | none => rfl
  | some graph =>
  dsimp only
  cases graph.trigger? with
  | none => rfl
  | some trigger =>
  simp only [Executions.create_eq]
  cases w.executions.admits customer channel.id with
  | true => rfl
  | false =>
    simp only [Bool.false_eq_true, if_false, Option.map_none, proceed_ok, exec_bind, exec_get]
    have hf : ({ w.executions with attempts := w.executions.attempts + 1 } : Executions).findActive?
        customer channel.id = w.executions.findActive? customer channel.id := rfl
    rw [hf]
    cases w.executions.findActive? customer channel.id with
    | none => rfl
    | some held =>
      dsimp only
      split
      · exact exec_continueWith held channel.credentials message _
      · rfl

/-- A timer goes on with an execution by a walk in the graph of its flow, if the flow is there. -/
theorem exec_resumeDue_of_some {held : Execution} {graph : FlowGraph}
    (hg : w.flows.load? held.flowId = some graph) :
    (resumeDue held).exec w =
      (Leg.ofTimer graph held (w.channels.credentials held.channelId)).draft.exec w := by
  rw [resumeDue, exec_bind, exec_graphOf, hg, Option.elim_some, proceed_ok, exec_bind, exec_get,
    proceed_ok]
  rfl

theorem exec_resumeDue_of_none {held : Execution} (hg : w.flows.load? held.flowId = none) :
    (resumeDue held).exec w = (.error (.unknownFlow held.flowId), w) := by
  rw [resumeDue, exec_bind, exec_graphOf, hg]
  rfl

/-- Going on after a timer is a walk in the graph of the flow. -/
theorem exec_resumeDue (held : Execution) (w : World) :
    proceed conclude ((Verdict.write <$> resumeDue held).exec w) =
      (Plan.inFlow w held.flowId fun graph =>
        .walk (.ofTimer graph held (w.channels.credentials held.channelId))).carryOut.exec w := by
  rw [exec_map]
  cases hg : w.flows.load? held.flowId with
  | none =>
    rw [exec_resumeDue_of_none hg, Plan.inFlow, hg]
    rfl
  | some graph =>
    rw [exec_resumeDue_of_some hg, Plan.inFlow, hg, Option.elim_some, Plan.carryOut, exec_bind]
    rcases (Leg.draft _).exec w with ⟨_ | _, _⟩ <;> rfl

end Work

/-- **An invocation is its plan, carried out.** -/
theorem Invocation.perform_eq_plan (call : Invocation) (w : World) :
    call.perform.exec w = (call.plan w).1.carryOut.exec (call.plan w).2 := by
  cases call with
  | start flow channel customer message initial =>
    exact Work.exec_startFlow flow channel customer message initial w
  | inbound channel customer message initial =>
    simp only [perform, plan, World.planInbound, Work.handleInbound, Work.exec_bind, Work.exec_get,
      Work.proceed_ok]
    cases w.executions.findActive? customer channel.id with
    | some held => exact Work.exec_continueWith held channel.credentials message w
    | none =>
      simp only [Work.receive, Work.chooseFlow, Work.exec_bind, Work.exec_get, Work.proceed_ok,
        Work.exec_ofExcept]
      cases firstStarted? message.text (w.flows.offered channel.id) with
      | error failure => rfl
      | ok chosen =>
        cases chosen with
        | none => rfl
        | some flow => exact Work.exec_startFlow flow.id channel customer message initial w
  | timer id version =>
    simp only [perform, plan, World.planTimer, Work.resumeTimer, Work.exec_bind, Work.exec_get,
      Work.proceed_ok]
    cases w.executions.get? id with
    | none => rfl
    | some held =>
      dsimp only
      rw [Work.exec_wake]
      split
      · rfl
      · split
        · rfl
        · exact Work.exec_resumeDue held w

/-! ## What can be planned -/

/-- Whether an invocation brings a message to an execution. -/
def Invocation.Brings (message : InboundMessage) (held : Execution) : Invocation → Prop
  | .inbound channel customer brought _ | .start _ channel customer brought _ =>
    brought = message ∧ held.customerId = customer ∧ held.channelId = channel.id
  | .timer .. => False

/-- The walks that an invocation can set out on, and the worlds in which they are taken. -/
inductive SetsOut (w : World) (call : Invocation) : Leg → World → Prop where
  /-- A message comes for which an execution waits. -/
  | reply {graph : FlowGraph} {held : Execution} {message : InboundMessage} {node : FlowNode}
      {reply : Option String} (credentials : Credentials) (attempts : Nat)
      (ha : w.executions.attempts ≤ attempts) (hheld : held ∈ w.executions.rows)
      (hb : call.Brings message held) (hs : held.status = .waiting)
      (ht : held.waitingFor ≠ some timerReason) (hg : w.flows.load? held.flowId = some graph)
      (hn : held.currentNode.bind graph.node? = some node)
      (hr : node.replyVariable? = .ok reply) :
      SetsOut w call (.ofReply graph held credentials message node reply)
        (w.withAttempts attempts)
  /-- The node that asked for the message is gone. -/
  | stranded {graph : FlowGraph} {held : Execution} {message : InboundMessage}
      (credentials : Credentials) (attempts : Nat) (ha : w.executions.attempts ≤ attempts)
      (hheld : held ∈ w.executions.rows) (hb : call.Brings message held)
      (hs : held.status = .waiting) (ht : held.waitingFor ≠ some timerReason)
      (hg : w.flows.load? held.flowId = some graph)
      (hn : held.currentNode.bind graph.node? = none) :
      SetsOut w call (.ofStranded graph held credentials message) (w.withAttempts attempts)
  /-- A message comes after a walk that failed. -/
  | restart {graph : FlowGraph} {held : Execution} {message : InboundMessage}
      (credentials : Credentials) (attempts : Nat) (ha : w.executions.attempts ≤ attempts)
      (hheld : held ∈ w.executions.rows) (hb : call.Brings message held)
      (hs : held.status = .running) (hg : w.flows.load? held.flowId = some graph) :
      SetsOut w call (.ofRestart graph held credentials message) (w.withAttempts attempts)
  /-- A flow is started. -/
  | departure {departure : Departure} {flow : String} {channel : ChannelAccess}
      {customer : String} {message : InboundMessage} {initial : Object}
      (hc : call.Starts w flow channel customer message initial)
      (hg : w.flows.load? flow = some departure.graph)
      (ht : departure.graph.trigger? = some departure.trigger)
      (ha : w.executions.admits customer channel.id = true)
      (hnew : departure.held = w.executions.newRow flow customer channel.id
        (some departure.trigger.id) (initial.update message.observed)) :
      SetsOut w call (.ofDeparture departure channel.credentials message)
        (w.withRow departure.held)
  /-- A timer is due. -/
  | timer {graph : FlowGraph} {held : Execution} {version : Option Int}
      (credentials : Credentials) (hc : call = .timer held.id version)
      (hheld : held ∈ w.executions.rows) (hw : held.waitsForTimer = true)
      (hv : version.any (· != (held.version : Int)) = false)
      (hl : Work.tooEarly w.outside.clock.now held.resumeAt = false)
      (hg : w.flows.load? held.flowId = some graph) :
      SetsOut w call (.ofTimer graph held credentials) w

/-- Why a flow cannot be walked. -/
inductive World.Blocks (w : World) : (flow : String) → Failure → Prop where
  | unknown {flow : String} (h : w.flows.load? flow = none) : Blocks w flow (.unknownFlow flow)
  | noTrigger {flow : String} {graph : FlowGraph} (hg : w.flows.load? flow = some graph)
      (ht : graph.trigger? = none) : Blocks w flow (.noTrigger flow)
  /-- The node at which an execution waits cannot be read. -/
  | unreadable {graph : FlowGraph} {held : Execution} {node : FlowNode} {failure : Failure}
      (hheld : held ∈ w.executions.rows) (hs : held.status = .waiting)
      (hg : w.flows.load? held.flowId = some graph)
      (hn : held.currentNode.bind graph.node? = some node)
      (hr : node.replyVariable? = .error failure) : Blocks w held.flowId failure

/-- All that an invocation can set out to do, and in which worlds. -/
inductive Planned (w : World) (call : Invocation) : Plan × World → Prop where
  /-- There is nothing to do; an attempt may be used up and a call be asked for again. -/
  | answer (outcome : Outcome) (attempts : Nat) (timers : Timers)
      (ha : w.executions.attempts ≤ attempts) :
      Planned w call (.answer outcome, { w.withAttempts attempts with timers })
  | refuse (failure : Failure) (hf : ∃ kind, failure = .textOfKind kind) :
      Planned w call (.refuse failure, w)
  | block (flow : String) (failure : Failure) (attempts : Nat)
      (ha : w.executions.attempts ≤ attempts) (hb : w.Blocks flow failure) :
      Planned w call (.block flow failure, w.withAttempts attempts)
  | note (held : Execution) (message : InboundMessage) (attempts : Nat)
      (ha : w.executions.attempts ≤ attempts) (hheld : held ∈ w.executions.rows)
      (hb : call.Brings message held) (hw : held.waitsForTimer = true) :
      Planned w call (.note held message, w.withAttempts attempts)
  | walk (leg : Leg) (w' : World) (hl : SetsOut w call leg w') : Planned w call (.walk leg, w')

namespace World

/-- What can be planned with a message for an active execution. -/
theorem planned_ofMessage {w : World} {call : Invocation} {held : Execution}
    {message : InboundMessage} (credentials : Credentials) (attempts : Nat)
    (ha : w.executions.attempts ≤ attempts) (hheld : held ∈ w.executions.rows)
    (hactive : held.status.isActive = true) (hb : call.Brings message held) :
    Planned w call (.ofMessage (w.withAttempts attempts) held credentials message,
      w.withAttempts attempts) := by
  unfold Plan.ofMessage
  split
  · next hw => exact .note held message attempts ha hheld hb hw
  next hw =>
  unfold Plan.inFlow
  cases hg : (w.withAttempts attempts).flows.load? held.flowId with
  | none => exact .block _ _ attempts ha (.unknown hg)
  | some graph =>
  show Planned w call (if held.status = .waiting then _ else _, _)
  split
  · next hs =>
    have ht : held.waitingFor ≠ some timerReason := fun ht =>
      hw (Execution.waitsForTimer_iff.2 ⟨hs, ht⟩)
    unfold Plan.ofReply
    cases hn : held.currentNode.bind graph.node? with
    | none => exact .walk _ _ (.stranded credentials attempts ha hheld hb hs ht hg hn)
    | some node =>
    dsimp only
    cases hr : node.replyVariable? with
    | error failure => exact .block _ _ attempts ha (.unreadable hheld hs hg hn hr)
    | ok reply => exact .walk _ _ (.reply credentials attempts ha hheld hb hs ht hg hn hr)
  · next hs =>
    have hrunning : held.status = .running := by
      cases hstatus : held.status with
      | running => rfl
      | waiting => exact absurd hstatus hs
      | completed | other name => rw [hstatus] at hactive; cases hactive
    exact .walk _ _ (.restart credentials attempts ha hheld hb hrunning hg)

/-- What can be planned with the start of a flow. -/
theorem planned_start {w : World} {call : Invocation} {flow : String} {channel : ChannelAccess}
    {customer : String} {message : InboundMessage} {initial : Object}
    (hc : call.Starts w flow channel customer message initial) :
    Planned w call (w.planStart flow channel customer message initial) := by
  unfold planStart
  cases hg : w.flows.load? flow with
  | none => exact .block flow _ w.executions.attempts (Nat.le_refl _) (.unknown hg)
  | some graph =>
  dsimp only
  cases ht : graph.trigger? with
  | none => exact .block flow _ w.executions.attempts (Nat.le_refl _) (.noTrigger hg ht)
  | some trigger =>
  dsimp only
  split
  · next ha => exact .walk _ _ (.departure hc hg ht ha rfl)
  · have hle : w.executions.attempts ≤ w.executions.attempts + 1 := Nat.le_succ _
    cases hf : w.executions.findActive? customer channel.id with
    | none => exact .answer _ _ w.timers hle
    | some held =>
    obtain ⟨hheld, hcu, hch, hactive⟩ := Executions.findActive?_some hf
    have hb : call.Brings message held := by
      cases hc <;> exact ⟨rfl, hcu, hch⟩
    dsimp only
    split
    · exact planned_ofMessage channel.credentials _ hle hheld hactive hb
    · exact .answer _ _ w.timers hle

end World

/-- Every invocation sets out to do one of these things. -/
theorem Invocation.planned (call : Invocation) (w : World) : Planned w call (call.plan w) := by
  cases call with
  | start flow channel customer message initial => exact World.planned_start .start
  | inbound channel customer message initial =>
    simp only [plan, World.planInbound]
    cases hf : w.executions.findActive? customer channel.id with
    | some held =>
      obtain ⟨hheld, hcu, hch, hactive⟩ := Executions.findActive?_some hf
      exact World.planned_ofMessage channel.credentials w.executions.attempts (Nat.le_refl _) hheld
        hactive ⟨rfl, hcu, hch⟩
    | none =>
      cases hs : firstStarted? message.text (w.flows.offered channel.id) with
      | error failure => exact .refuse failure (firstStarted?_error hs)
      | ok chosen =>
        cases chosen with
        | none => exact .answer _ w.executions.attempts w.timers (Nat.le_refl _)
        | some flow => exact World.planned_start (.inbound hs)
  | timer id version =>
    simp only [plan, World.planTimer]
    cases hf : w.executions.get? id with
    | none => exact .answer _ w.executions.attempts w.timers (Nat.le_refl _)
    | some held =>
      obtain ⟨hheld, rfl⟩ := Executions.get?_some hf
      dsimp only
      split
      · exact .answer _ w.executions.attempts w.timers (Nat.le_refl _)
      next hready =>
      obtain ⟨hw, hv⟩ : held.waitsForTimer = true ∧
          version.any (· != (held.version : Int)) = false := by
        simpa only [Bool.or_eq_true, Bool.not_eq_true', not_or, Bool.not_eq_false,
          Bool.not_eq_true] using hready
      split
      · exact .answer _ w.executions.attempts _ (Nat.le_refl _)
      next hl =>
      unfold Plan.inFlow
      cases hg : w.flows.load? held.flowId with
      | none => exact .block _ _ w.executions.attempts (Nat.le_refl _) (.unknown hg)
      | some graph =>
        exact .walk _ _ (.timer _ rfl hheld hw hv (Bool.not_eq_true _ ▸ hl) hg)

/-- An invocation that plans a walk sets out on it. -/
theorem Invocation.setsOut {call : Invocation} {leg : Leg} {w' : World}
    (h : call.plan w = (.walk leg, w')) : SetsOut w call leg w' := by
  have hplanned := call.planned w
  rw [h] at hplanned
  cases hplanned with
  | walk leg w' hl => exact hl

end ChatFlow

import ChatFlow.Proofs.Engine.Abreast
import ChatFlow.Proofs.Engine.Crashes

/-!
# A restart is a start that was put off

A start that fails at a node leaves a running execution behind, which stands at the trigger with the
variables that the start began with. The next message restarts it. `World.restarted_as_started` says
that the restart goes as a start with this message would have gone, had it been given these
variables: by the same nodes, with the same requests, to the same row of the store or the same
failure. Only the restart counts as going on with an execution, and does not log the trigger.

A start and a restart find their way into the graph by different means: the one begins at the
trigger itself, the other looks for the node of the id that the execution bears.
`Leg.ofRestart_sameWay` says that both set out in the same way. It takes that no other node bears
the id of the trigger; in the store of flows the ids of nodes are keys.
-/

namespace ChatFlow

/-! ## Setting out -/

/-- Whether a flow has a trigger and the store admits an execution of it for a customer on a
channel. -/
structure World.CanStart (w : World) (flow : String) (channel : Option String) (customer : String)
    (graph : FlowGraph) (trigger : FlowNode) : Prop where
  load : w.flows.load? flow = some graph
  trigger : graph.trigger? = some trigger
  admits : w.executions.admits customer channel = true

/-- The row with which a start at a trigger begins. -/
def World.firstRow (w : World) (flow : String) (channel : Option String) (customer : String)
    (trigger : FlowNode) (vars : Object) : Execution :=
  w.executions.newRow flow customer channel (some trigger.id) vars

/-- A walk that failed leaves the rows as they were when it set out. -/
theorem World.rows_of_walk_failed {w w' : World} {call : Invocation} {leg : Leg}
    {failure : Failure} (hplan : call.plan w = (.walk leg, w'))
    (hfail : (call.perform.exec w).1 = .error failure) :
    (w.next (.invoke call)).executions.rows = w'.executions.rows := by
  rw [call.perform_eq_plan, hplan, Plan.exec_walk (call.setsOut hplan).held_mem] at hfail
  rw [next_of_walk? (walk?_of_plan hplan)]
  cases hp : leg.patch? w' with
  | ok patch =>
    rw [hp] at hfail
    cases hfail
  | error found => exact (leg.keeps_walked w').rows

section

variable {w : World} {flow customer : String} {channel : ChannelAccess} {graph : FlowGraph}
  {trigger : FlowNode} {message : InboundMessage} {initial : Object}

/-- A start that can be made sets out from the trigger with a new row. -/
theorem World.CanStart.plan (h : w.CanStart flow channel.id customer graph trigger)
    (message : InboundMessage) (initial : Object) :
    let row := w.firstRow flow channel.id customer trigger (initial.update message.observed)
    (Invocation.start flow channel customer message initial).plan w =
      (.walk (.ofDeparture ⟨graph, trigger, row⟩ channel.credentials message), w.withRow row) := by
  simp only [Invocation.plan, World.planStart, h.load, h.trigger, h.admits, if_true]
  rfl

/-- After a start that failed, the customer's active execution is the row with which it began. -/
theorem World.CanStart.findActive?_of_failed
    (h : w.CanStart flow channel.id customer graph trigger) {failure : Failure}
    (hfail : ((Invocation.start flow channel customer message initial).perform.exec w).1 =
      .error failure) :
    (w.next (.invoke (.start flow channel customer message initial))).executions.findActive?
        customer channel.id =
      some (w.firstRow flow channel.id customer trigger (initial.update message.observed)) := by
  have hrows := World.rows_of_walk_failed (h.plan message initial) hfail
  have hactive : Executions.isActiveOf customer channel.id (w.firstRow flow channel.id customer
      trigger (initial.update message.observed)) = true := by
    simp [Executions.isActiveOf, World.firstRow, Executions.newRow, ExecutionStatus.isActive]
  rw [Executions.findActive?, hrows]
  show (w.executions.rows ++ [_]).reverse.find? _ = _
  rw [List.reverse_append, List.reverse_singleton, List.singleton_append,
    List.find?_cons_of_pos hactive]

/-- A message for an execution that was left behind at the trigger restarts it. -/
theorem Leg.plan_ofRestart (message : InboundMessage) (initial : Object) {held : Execution}
    (hfound : w.executions.findActive? customer channel.id = some held)
    (hs : held.status = .running) (hg : w.flows.load? held.flowId = some graph) :
    (Invocation.inbound channel customer message initial).plan w =
      (.walk (.ofRestart graph held channel.credentials message), w) := by
  have htimer : ¬ held.waitsForTimer = true := fun ht => by
    rw [(Execution.waitsForTimer_iff.1 ht).1] at hs
    cases hs
  have hwaiting : ¬ held.status = .waiting := by rw [hs]; exact ExecutionStatus.noConfusion
  simp only [Invocation.plan, World.planInbound, hfound]
  rw [Plan.ofMessage_of_load?_some channel.credentials message htimer hg, if_neg hwaiting]

/-- The trigger that a graph begins with is the node of its id, if no other node bears the id. -/
theorem FlowGraph.node?_trigger (ht : graph.trigger? = some trigger)
    (hid : ∀ node ∈ graph.nodes, node.id = trigger.id → node = trigger) :
    graph.node? trigger.id = some trigger := by
  have hmem : trigger ∈ graph.nodes := List.mem_of_find?_eq_some ht
  obtain ⟨found, hfound⟩ : ∃ found, graph.node? trigger.id = some found :=
    Option.isSome_iff_exists.1 (List.find?_isSome.2 ⟨trigger, List.mem_reverse.2 hmem, by simp⟩)
  rw [hfound, hid found (FlowGraph.node?_some hfound) (FlowGraph.node?_id hfound)]

/-- **A restart sets out as a start does** that is given the variables of the execution. -/
theorem Leg.ofRestart_sameWay (held row : Execution) (credentials : Credentials)
    (message : InboundMessage) (ht : graph.trigger? = some trigger)
    (hid : ∀ node ∈ graph.nodes, node.id = trigger.id → node = trigger)
    (hheld : held.currentNode = some trigger.id) (hrow : row.currentNode = some trigger.id)
    (hcu : held.customerId = row.customerId) (hch : held.channelId = row.channelId)
    (hvars : held.after message = row.vars) :
    (Leg.ofRestart graph held credentials message).SameWay
      (.ofDeparture ⟨graph, trigger, row⟩ credentials message) where
  graph := rfl
  recipient := by
    show (⟨held.customerId, held.channelId, credentials⟩ : Recipient) =
      ⟨row.customerId, row.channelId, credentials⟩
    rw [hcu, hch]
  env := congrArg Env.ofVariables hvars
  next := by
    have htype : (trigger.type == "trigger") = true :=
      List.find?_some (p := fun node : FlowNode => node.type == "trigger") ht
    -- the execution stands at the trigger, and a restart does not stop there again
    show (held.currentNode.bind graph.node?).bind _ = graph.firstTarget? trigger.id
    rw [hheld, Option.bind_some, FlowGraph.node?_trigger ht hid, Option.bind_some, if_pos htype]
  stood := hheld.trans hrow.symm

end

/-! ## What is written -/

/-- What a walk that failed leaves in the log. -/
def Walk.failureEntries (walk : Walk) : List LogEntry :=
  match walk.ending with
  | .failed node cause => [node.errorEntry cause]
  | .parked .. | .completed _ => []

/-- The log of an execution after a walk that was not written. -/
theorem Walk.logOf_logged (walk : Walk) (held : Execution) (executions : Executions) :
    (walk.logged held executions).logOf held.id =
      executions.logOf held.id ++ walk.failureEntries := by
  unfold logged failureEntries
  cases walk.ending with
  | failed node cause =>
    dsimp only
    rw [Executions.logOf_appendLog, if_pos rfl]
  | parked | completed => exact (List.append_nil _).symm

/-- A walk that is written leaves no failure in the log. -/
theorem Walk.failureEntries_of_patch?_ok {walk : Walk} {now : Moment} {patch : Patch}
    (h : walk.patch? now = .ok patch) : walk.failureEntries = [] := by
  rcases Walk.patch?_ok h with ⟨id, reason, resumeAt, he, -⟩ | ⟨⟨last, he⟩, -⟩ <;>
    rw [failureEntries, he]

/-- What a walk changes leaves nothing of the row with which it was taken but its id, its owner and
its flow. -/
theorem Walk.apply_patch_eq {walk : Walk} {now : Moment} {patch : Patch}
    (h : walk.patch? now = .ok patch) {held row : Execution} (hflow : held.flowId = row.flowId)
    (hcu : held.customerId = row.customerId) (hch : held.channelId = row.channelId)
    (hversion : held.version = row.version) (hcompleted : held.completedAt = row.completedAt) :
    patch.apply held = { patch.apply row with id := held.id } := by
  unfold patch? at h
  split at h
  · cases h
  · split at h
    · cases h
    · cases h
      simp [Patch.apply, hflow, hcu, hch, hversion, hcompleted]
  · cases h
    simp [Patch.apply, hflow, hcu, hch, hversion]

namespace Invocation

variable {w w' : World} {call : Invocation} {leg : Leg}

/-- What comes of an invocation that sets out on a walk which fails. -/
theorem walks_error (hplan : call.plan w = (.walk leg, w')) {failure : Failure}
    (hp : leg.patch? w' = .error failure) :
    (call.perform.exec w).1 = .error failure ∧
      (w.next (.invoke call)).executions.logOf leg.held.id =
        w'.executions.logOf leg.held.id ++ (leg.walk w').failureEntries := by
  rw [World.next, call.perform_eq_plan, hplan, Plan.exec_walk (call.setsOut hplan).held_mem, hp]
  exact ⟨rfl, (leg.walk w').logOf_logged leg.held w'.executions⟩

/-- What comes of an invocation that sets out on a walk which is written. -/
theorem walks_ok (hs : w.executions.Sound) (hplan : call.plan w = (.walk leg, w')) {patch : Patch}
    (hp : leg.patch? w' = .ok patch) :
    (call.perform.exec w).1 =
        .ok ⟨leg.action, some leg.held.id, some (patch.apply leg.held).status⟩ ∧
      (w.next (.invoke call)).executions.get? leg.held.id = some (patch.apply leg.held) ∧
      (w.next (.invoke call)).executions.logOf leg.held.id =
        w'.executions.logOf leg.held.id ++ leg.entries w' := by
  have hl := call.setsOut hplan
  rw [World.next, call.perform_eq_plan, hplan, Plan.exec_walk hl.held_mem, hp]
  refine ⟨rfl, ?_, ?_⟩
  · have hget := (hl.sound_walked hs).get?_written hl.held_mem_walked patch (leg.entries w')
      leg.held.id
    rw [if_pos rfl] at hget
    exact hget
  · have hlogged := (leg.walk w').logOf_logged leg.held w'.executions
    rw [Walk.failureEntries_of_patch?_ok hp, List.append_nil] at hlogged
    show ((leg.walked w').executions.written leg.held patch (leg.entries w')).logOf leg.held.id = _
    rw [Executions.logOf_written, if_pos rfl]
    exact congrArg (· ++ leg.entries w') hlogged

/-- The nodes that are dispatched on behalf of the execution with which a walk is taken. -/
theorem dispatched_of_plan (hplan : call.plan w = (.walk leg, w')) :
    w.dispatched leg.held.id (.invoke call) =
      (leg.itinerary w').filterMap Waypoint.visited? := by
  rw [World.dispatched, World.walk?_of_plan hplan]
  exact if_pos rfl

/-- After a walk, what lies outside is as the walk left it. -/
theorem outside_of_plan (hplan : call.plan w = (.walk leg, w')) :
    (w.next (.invoke call)).outside = (leg.walk w').scene.outside := by
  rw [World.next, call.perform_eq_plan, hplan, Plan.outside_exec_walk (call.setsOut hplan).held_mem]

end Invocation

/-! ## A restart and a start -/

/-- Whether a restart of an execution in one world goes as a start in another, but for the entry
that the start makes in the log. -/
structure World.RestartsAs (w₂ : World) (restart : Invocation) (id₂ : String) (w₃ : World)
    (start : Invocation) (id₃ : String) (entry : LogEntry) : Prop where
  /-- The same nodes are dispatched. -/
  dispatched : w₂.dispatched id₂ (.invoke restart) = w₃.dispatched id₃ (.invoke start)
  /-- The same messages are sent. -/
  sent : ∃ sent,
    (w₂.next (.invoke restart)).outside.provider.requests =
        w₂.outside.provider.requests ++ sent ∧
      (w₃.next (.invoke start)).outside.provider.requests = w₃.outside.provider.requests ++ sent
  /-- The same other services are called. -/
  called : ∃ called,
    (w₂.next (.invoke restart)).outside.web.requests = w₂.outside.web.requests ++ called ∧
      (w₃.next (.invoke start)).outside.web.requests = w₃.outside.web.requests ++ called
  /-- Both fail for the same reason and log the same, or both leave the same row but for its id, and
  log the same after the entry of the start. -/
  ends :
    (∃ (failure : Failure) (entries : List LogEntry),
      (restart.perform.exec w₂).1 = .error failure ∧
      (start.perform.exec w₃).1 = .error failure ∧
      (w₂.next (.invoke restart)).executions.logOf id₂ = w₂.executions.logOf id₂ ++ entries ∧
      (w₃.next (.invoke start)).executions.logOf id₃ = w₃.executions.logOf id₃ ++ entries) ∨
    (∃ (row : Execution) (entries : List LogEntry),
      (restart.perform.exec w₂).1 = .ok ⟨.resumed, some id₂, some row.status⟩ ∧
      (start.perform.exec w₃).1 = .ok ⟨.started, some id₃, some row.status⟩ ∧
      (w₂.next (.invoke restart)).executions.get? id₂ = some { row with id := id₂ } ∧
      (w₃.next (.invoke start)).executions.get? id₃ = some { row with id := id₃ } ∧
      (w₂.next (.invoke restart)).executions.logOf id₂ = w₂.executions.logOf id₂ ++ entries ∧
      (w₃.next (.invoke start)).executions.logOf id₃ =
        w₃.executions.logOf id₃ ++ entry :: entries)

/-- Walks that are taken in the same way, one on account of a restart and one on account of a start,
go in the same way. -/
theorem World.restartsAs_of_sameWay {w₂ w₃ w₃' : World} {restart start : Invocation}
    {leg₂ leg₃ : Leg} {entry : LogEntry} (hs₂ : w₂.executions.Sound) (hs₃ : w₃.executions.Sound)
    (hplan₂ : restart.plan w₂ = (.walk leg₂, w₂)) (hplan₃ : start.plan w₃ = (.walk leg₃, w₃'))
    (hway : leg₂.SameWay leg₃) (hflow : leg₂.held.flowId = leg₃.held.flowId)
    (hversion : leg₂.held.version = leg₃.held.version)
    (hcompleted : leg₂.held.completedAt = leg₃.held.completedAt)
    (haction₂ : leg₂.action = .resumed) (haction₃ : leg₃.action = .started)
    (hbefore₂ : leg₂.before = []) (hbefore₃ : leg₃.before = [entry])
    (houtside : w₂.outside.SameAnswers w₃.outside) (hlimit : w₂.stepLimit = w₃.stepLimit)
    (houtside₃ : w₃'.outside = w₃.outside) (hlimit₃ : w₃'.stepLimit = w₃.stepLimit)
    (hlogs₃ : w₃'.executions.logOf leg₃.held.id = w₃.executions.logOf leg₃.held.id) :
    w₂.RestartsAs restart leg₂.held.id w₃ start leg₃.held.id entry := by
  have hfaithful := Likeness.parallel_faithful w₂.outside w₃'.outside
  have halike : (Likeness.parallel w₂.outside w₃'.outside).Outsides w₂.outside w₃'.outside :=
    (houtside₃ ▸ houtside).parallel
  have hwalk := hfaithful.sameWalk (hway.walks (hlimit.trans hlimit₃.symm) halike)
  have hentries : (leg₂.walk w₂).entries = (leg₃.walk w₃').entries :=
    hfaithful.entries_eq hwalk.entries
  refine ⟨?_, ?_, ?_, ?_⟩
  · rw [Invocation.dispatched_of_plan hplan₂, Invocation.dispatched_of_plan hplan₃,
      hway.itinerary_eq hfaithful (hlimit.trans hlimit₃.symm) halike]
  · rw [Invocation.outside_of_plan hplan₂, Invocation.outside_of_plan hplan₃, ← houtside₃]
    exact hwalk.scene.outside.provider.requests
  · rw [Invocation.outside_of_plan hplan₂, Invocation.outside_of_plan hplan₃, ← houtside₃]
    exact hwalk.scene.outside.web.requests
  cases hp : leg₃.patch? w₃' with
  | error failure =>
    obtain ⟨hresult₂, hlog₂⟩ :=
      Invocation.walks_error hplan₂ (hwalk.leg_patch?_eq.trans hp)
    obtain ⟨hresult₃, hlog₃⟩ := Invocation.walks_error hplan₃ hp
    have hsame : (leg₂.walk w₂).failureEntries = (leg₃.walk w₃').failureEntries := by
      rw [Walk.failureEntries, Walk.failureEntries, hwalk.ending]
    exact .inl ⟨failure, _, hresult₂, hresult₃, hsame ▸ hlog₂, hlogs₃ ▸ hlog₃⟩
  | ok patch =>
    obtain ⟨hresult₂, hrow₂, hlog₂⟩ :=
      Invocation.walks_ok hs₂ hplan₂ (hwalk.leg_patch?_eq.trans hp)
    obtain ⟨hresult₃, hrow₃, hlog₃⟩ := Invocation.walks_ok hs₃ hplan₃ hp
    obtain ⟨hcu, hch⟩ : leg₂.held.customerId = leg₃.held.customerId ∧
        leg₂.held.channelId = leg₃.held.channelId :=
      ⟨congrArg Recipient.customerId hway.recipient, congrArg Recipient.channelId hway.recipient⟩
    have hrow := Walk.apply_patch_eq hp hflow hcu hch hversion hcompleted
    rw [haction₂, hrow] at hresult₂
    rw [haction₃] at hresult₃
    rw [hrow] at hrow₂
    rw [Leg.entries, hbefore₂, List.nil_append, hentries] at hlog₂
    rw [Leg.entries, hbefore₃, hlogs₃] at hlog₃
    exact .inr ⟨patch.apply leg₃.held, _, hresult₂, hresult₃, hrow₂, hrow₃, hlog₂, hlog₃⟩

/-- **A restart is a start that was put off.** A start failed at a node and left its execution
behind; then another message comes. The restart goes as a start with this message, given what the
first start had been given and what the first message told. -/
theorem World.restarted_as_started {w w₂ w₃ : World} {flow customer : String}
    {channel : ChannelAccess} {graph : FlowGraph} {trigger : FlowNode} {first : InboundMessage}
    {initial : Object} {node type : String} {cause : Failure}
    (h : w.CanStart flow channel.id customer graph trigger)
    (hid : ∀ node ∈ graph.nodes, node.id = trigger.id → node = trigger)
    (hfail : ((Invocation.start flow channel customer first initial).perform.exec w).1 =
      .error (.node node type cause))
    (hs₂ : w₂.executions.Sound) (hg₂ : w₂.flows.load? flow = some graph)
    (hfound : w₂.executions.findActive? customer channel.id =
      (w.next (.invoke (.start flow channel customer first initial))).executions.findActive?
        customer channel.id)
    (hs₃ : w₃.executions.Sound) (h₃ : w₃.CanStart flow channel.id customer graph trigger)
    (houtside : w₂.outside.SameAnswers w₃.outside) (hlimit : w₂.stepLimit = w₃.stepLimit)
    (second : InboundMessage) (other : Object) :
    w₂.RestartsAs (.inbound channel customer second other)
      (Executions.idOf (w.executions.attempts + 1)) w₃
      (.start flow channel customer second (initial.update first.observed))
      (Executions.idOf (w₃.executions.attempts + 1))
      (trigger.entry [("triggered", .bool true), ("message", second.text)]) := by
  have hheld := hfound.trans (h.findActive?_of_failed hfail)
  have hplan₂ := Leg.plan_ofRestart second other hheld rfl hg₂
  have hplan₃ := h₃.plan second (initial.update first.observed)
  have hway := Leg.ofRestart_sameWay
    (w.firstRow flow channel.id customer trigger (initial.update first.observed))
    (w₃.firstRow flow channel.id customer trigger
      ((initial.update first.observed).update second.observed))
    channel.credentials second h.trigger hid rfl rfl rfl rfl rfl
  exact restartsAs_of_sameWay hs₂ hs₃ hplan₂ hplan₃ hway rfl rfl rfl rfl rfl rfl rfl houtside hlimit
    rfl rfl rfl

/-- A message whose time stamp is a number. -/
def wellStamped : InboundMessage := ⟨.text "text", .text "hi", .null, .null, .null, .text "5"⟩

/-- A channel of this world. -/
def stampedChannel : ChannelAccess := ⟨some "c", ⟨none, none⟩⟩

/-- The start of the flow with a message whose time stamp is a superscript. -/
def oddStart : Invocation := .start "f" stampedChannel "x" oddlyStamped []

/-- The first message made the start fail. The next restarts the execution, and this goes as a start
with it would. -/
theorem World.restarted_as_started_stamped :
    (oddStart.perform.exec stampedWorld).1 =
        .error (.node "s" "getMessageTimestamp" (.fault (.notDecimal "²"))) ∧
      (stampedWorld.next (.invoke oddStart)).RestartsAs
        (.inbound stampedChannel "x" wellStamped []) (Executions.idOf 1) stampedWorld
        (.start "f" stampedChannel "x" wellStamped oddlyStamped.observed) (Executions.idOf 1)
        ⟨some "t", some "trigger",
          .object [("triggered", .bool true), ("message", .text "hi")]⟩ := by
  have hsound : stampedWorld.executions.Sound := .of_rows_nil rfl
  have hstart : stampedWorld.CanStart "f" stampedChannel.id "x" stampedGraph
      ⟨"t", "trigger", .null⟩ := ⟨stampedWorld_load?, rfl, rfl⟩
  have hid : ∀ node ∈ stampedGraph.nodes, node.id = "t" → node = ⟨"t", "trigger", .null⟩ := by
    simp [stampedGraph]
  have hfail : (oddStart.perform.exec stampedWorld).1 =
      .error (.node "s" "getMessageTimestamp" (.fault (.notDecimal "²"))) := by
    rw [Invocation.perform_eq_plan, oddStart, hstart.plan]
    rfl
  have hnext : (stampedWorld.next (.invoke oddStart)).flows.load? "f" = some stampedGraph := by
    rw [(frame_next _ _).2]
    exact stampedWorld_load?
  have houtside : (stampedWorld.next (.invoke oddStart)).outside = stampedWorld.outside := by
    rw [oddStart, Invocation.outside_of_plan (hstart.plan oddlyStamped [])]
    rfl
  have hlimit : (stampedWorld.next (.invoke oddStart)).stepLimit = stampedWorld.stepLimit := by
    rw [oddStart, next_of_walk? (walk?_of_plan (hstart.plan oddlyStamped []))]
    split <;> rfl
  exact ⟨hfail, restarted_as_started hstart hid hfail (sound_next hsound _) hnext rfl hsound hstart
    (houtside ▸ .refl _) hlimit wellStamped []⟩

end ChatFlow

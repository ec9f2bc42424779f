import ChatFlow.Proofs.Engine.Events

/-!
# Runs over redrawn flows

The flows of a world can be stored in other ways. Here a run is compared with the same run over
flows that were redrawn: the channels offer the same flows, and the walks in the one graph of a flow
are matched by those in the other. `FlowGraph.Redraws` says what that asks of two graphs: they agree
on the trigger and on the nodes at which executions stand, and from all places where an invocation
sets out the walks end in the same way and in the same scene, with the same entries for the log but
for some additional ones (`FlowGraph.Matches`). `Leeway` tells which walks are compared and which
entries may be added.

Main statements: `World.perform_redrawn`, an invocation over redrawn flows comes to the same, and it
leaves a world that differs in its flows and in the additional entries only; `World.play_redrawn`,
the same for a run.
-/

namespace ChatFlow

/-! ## Additional entries -/

/-- Whether a list is another with further elements of a kind in between. -/
inductive Interspersed {α : Type} (Extra : α → Prop) : List α → List α → Prop where
  | nil : Interspersed Extra [] []
  | keep (a : α) {l l' : List α} (h : Interspersed Extra l l') :
      Interspersed Extra (a :: l) (a :: l')
  | extra {a : α} (ha : Extra a) {l l' : List α} (h : Interspersed Extra l l') :
      Interspersed Extra l (a :: l')

namespace Interspersed

variable {α β : Type} {Extra : α → Prop} {l l' m m' : List α}

theorem refl (l : List α) : Interspersed Extra l l := by
  induction l with
  | nil => exact .nil
  | cons a l ih => exact .keep a ih

theorem append (h : Interspersed Extra l l') (hm : Interspersed Extra m m') :
    Interspersed Extra (l ++ m) (l' ++ m') := by
  induction h with
  | nil => exact hm
  | keep a _ ih => exact .keep a ih
  | extra ha _ ih => exact .extra ha ih

theorem map {More : β → Prop} {f : α → β} (h : Interspersed Extra l l')
    (hf : ∀ a, Extra a → More (f a)) : Interspersed More (l.map f) (l'.map f) := by
  induction h with
  | nil => exact .nil
  | keep a _ ih => exact .keep (f a) ih
  | extra ha _ ih => exact .extra (hf _ ha) ih

/-- Without further elements the lists are the same. -/
theorem eq_of_none (hnone : ∀ a, ¬ Extra a) (h : Interspersed Extra l l') : l' = l := by
  induction h with
  | nil => rfl
  | keep a _ ih => rw [ih]
  | extra ha => exact absurd ha (hnone _)

end Interspersed

/-- What redrawn flows may do otherwise. -/
structure Leeway where
  /-- The walks over the redrawn flows that are compared, by what they meet. -/
  Compares : List Waypoint → Prop
  /-- The entries that come into the log in addition. -/
  Extra : LogEntry → Prop

/-- Whether a walk is another but for additional entries. -/
structure Walk.Adds (Extra : LogEntry → Prop) (walk walk' : Walk) : Prop where
  ending : walk'.ending = walk.ending
  scene : walk'.scene = walk.scene
  entries : Interspersed Extra walk.entries walk'.entries

/-- Whether logs are others with additional entries. -/
abbrev Leeway.Logs (leeway : Leeway) : List (String × LogEntry) → List (String × LogEntry) → Prop :=
  Interspersed fun logged => leeway.Extra logged.2

/-! ## Redrawn flows -/

section

variable {leeway : Leeway}

/-- Whether the walks in a graph from a place are matched by those in another from its own. -/
def FlowGraph.Matches (leeway : Leeway) (graph graph' : FlowGraph) (next next' : Option String) :
    Prop :=
  ∀ (recipient : Recipient) (steps : Nat) (last : Option String) (scene : Scene),
    leeway.Compares (itinerary graph' recipient steps next' scene) →
      (walkFrom graph recipient steps next last scene).Adds leeway.Extra
        (walkFrom graph' recipient steps next' last scene)

/-- Nowhere to go is the same in all graphs. -/
theorem FlowGraph.matches_none (graph graph' : FlowGraph) :
    graph.Matches leeway graph' none none := by
  intro recipient steps last scene _
  unfold walkFrom
  exact ⟨rfl, rfl, .nil⟩

/-- Whether a graph is another one redrawn, for executions that stand where it stays the same. -/
structure FlowGraph.Redraws (leeway : Leeway) (Stays : Option String → Prop)
    (graph graph' : FlowGraph) : Prop where
  trigger? : graph'.trigger? = graph.trigger?
  /-- The nodes of the graph stay. -/
  stays : ∀ node ∈ graph.nodes, Stays (some node.id)
  node? : ∀ place, Stays place → place.bind graph'.node? = place.bind graph.node?
  here : ∀ id, Stays (some id) → graph.Matches leeway graph' (some id) (some id)
  first : ∀ id, Stays (some id) →
    graph.Matches leeway graph' (graph.firstTarget? id) (graph'.firstTarget? id)
  leave : ∀ place, Stays place →
    graph.Matches leeway graph' ((place.bind (graph.nextEdge? · none)).map (·.target))
      ((place.bind (graph'.nextEdge? · none)).map (·.target))

/-- A graph is itself redrawn. -/
theorem FlowGraph.Redraws.refl {Stays : Option String → Prop} {graph : FlowGraph}
    (hstays : ∀ node ∈ graph.nodes, Stays (some node.id)) :
    graph.Redraws leeway Stays graph := by
  have hmatches : ∀ next, graph.Matches leeway graph next next :=
    fun next recipient steps last scene _ => ⟨rfl, rfl, .refl _⟩
  exact ⟨rfl, hstays, fun _ _ => rfl, fun _ _ => hmatches _, fun _ _ => hmatches _,
    fun _ _ => hmatches _⟩

/-- Whether flows are others redrawn: the channels offer the same ones, with redrawn graphs. -/
structure Flows.Redraws (leeway : Leeway) (Stays : String → Option String → Prop)
    (store store' : Flows) : Prop where
  offered : ∀ channel, store'.offered channel = store.offered channel
  load? : ∀ id, Option.Rel (FlowGraph.Redraws leeway (Stays id)) (store.load? id) (store'.load? id)

/-- Whether the active executions stand at places of a kind, which may be another for each flow. -/
def World.StandAt (w : World) (Stays : String → Option String → Prop) : Prop :=
  ∀ row ∈ w.executions.rows, row.status.isActive = true → Stays row.flowId row.currentNode

/-- The world with other flows. -/
def World.withFlows (w : World) (flows : Flows) : World := { w with flows }

/-- The world with other flows and logs. -/
def World.redrawn (w : World) (flows : Flows) (logs : List (String × LogEntry)) : World :=
  { w with flows, executions := { w.executions with logs } }

namespace World

variable (w : World) (flows : Flows) (logs : List (String × LogEntry))

theorem flows_redrawn : (w.redrawn flows logs).flows = flows := rfl

theorem get?_redrawn (id : String) :
    (w.redrawn flows logs).executions.get? id = w.executions.get? id := rfl

theorem findActive?_redrawn (customer : String) (channel : Option String) :
    (w.redrawn flows logs).executions.findActive? customer channel =
      w.executions.findActive? customer channel := rfl

theorem admits_redrawn (customer : String) (channel : Option String) :
    (w.redrawn flows logs).executions.admits customer channel =
      w.executions.admits customer channel := rfl

theorem outside_redrawn : (w.redrawn flows logs).outside = w.outside := rfl

end World

/-! ## Plans -/

/-- Whether a plan is another over a redrawn graph. -/
inductive Plan.Redraws (leeway : Leeway) : Plan → Plan → Prop where
  | same (plan : Plan) (hno : ∀ leg, plan ≠ .walk leg) : Redraws leeway plan plan
  | walk (leg : Leg) (graph : FlowGraph) (next : Option String)
      (h : leg.graph.Matches leeway graph leg.next next) :
      Redraws leeway (.walk leg) (.walk { leg with graph, next })

section Plans

variable {Stays : String → Option String → Prop} {w : World} {flows : Flows}

/-- A message for an execution that stands at a place that stays is planned in the redrawn graph. -/
theorem Plan.ofReply_redraws {graph graph' : FlowGraph} {held : Execution}
    (hg : graph.Redraws leeway (Stays held.flowId) graph')
    (hheld : Stays held.flowId held.currentNode) (credentials : Credentials)
    (message : InboundMessage) :
    Plan.Redraws leeway (ofReply graph held credentials message)
      (ofReply graph' held credentials message) := by
  unfold ofReply
  rw [hg.node? _ hheld]
  cases hn : held.currentNode.bind graph.node? with
  | none =>
    exact .walk (.ofStranded graph held credentials message) graph' none
      (graph.matches_none graph')
  | some node =>
    obtain ⟨id, -, hid⟩ := Option.bind_eq_some_iff.1 hn
    dsimp only
    cases node.replyVariable? with
    | error failure => exact .same _ fun _ => Plan.noConfusion
    | ok reply =>
      exact .walk (.ofReply graph held credentials message node reply) graph'
        (graph'.firstTarget? node.id) (hg.first _ (hg.stays node (FlowGraph.node?_some hid)))

/-- A running execution goes on in the redrawn graph. -/
theorem Plan.ofRestart_redraws {graph graph' : FlowGraph} {held : Execution}
    (hg : graph.Redraws leeway (Stays held.flowId) graph')
    (hheld : Stays held.flowId held.currentNode) (credentials : Credentials)
    (message : InboundMessage) :
    Plan.Redraws leeway (.walk (.ofRestart graph held credentials message))
      (.walk (.ofRestart graph' held credentials message)) := by
  refine .walk (.ofRestart graph held credentials message) graph'
    (Leg.ofRestart graph' held credentials message).next ?_
  show graph.Matches leeway graph' ((held.currentNode.bind graph.node?).bind _)
    ((held.currentNode.bind graph'.node?).bind _)
  rw [hg.node? _ hheld]
  cases hn : held.currentNode.bind graph.node? with
  | none => exact graph.matches_none graph'
  | some node =>
    obtain ⟨id, -, hid⟩ := Option.bind_eq_some_iff.1 hn
    have hstays := hg.stays node (FlowGraph.node?_some hid)
    rw [Option.bind_some, Option.bind_some]
    split
    · exact hg.first _ hstays
    · exact hg.here _ hstays

/-- What is planned in the graph of a flow is planned in the redrawn one. -/
theorem Plan.inFlow_redraws (hf : w.flows.Redraws leeway Stays flows)
    (logs : List (String × LogEntry)) (flow : String) {next next' : FlowGraph → Plan}
    (hnext : ∀ graph graph', graph.Redraws leeway (Stays flow) graph' →
      Plan.Redraws leeway (next graph) (next' graph')) :
    Plan.Redraws leeway (inFlow w flow next) (inFlow (w.redrawn flows logs) flow next') := by
  have hload := hf.load? flow
  rw [inFlow, inFlow, World.flows_redrawn]
  generalize w.flows.load? flow = loaded at hload ⊢
  generalize flows.load? flow = loaded' at hload ⊢
  cases hload with
  | none => exact .same _ fun _ => Plan.noConfusion
  | some hg => exact hnext _ _ hg

theorem Plan.ofMessage_redraws (hf : w.flows.Redraws leeway Stays flows) {held : Execution}
    (hheld : Stays held.flowId held.currentNode) (credentials : Credentials)
    (message : InboundMessage) (logs : List (String × LogEntry)) :
    Plan.Redraws leeway (ofMessage w held credentials message)
      (ofMessage (w.redrawn flows logs) held credentials message) := by
  unfold ofMessage
  split
  · exact .same _ fun _ => Plan.noConfusion
  · refine Plan.inFlow_redraws hf logs held.flowId fun graph graph' hg => ?_
    split
    · exact Plan.ofReply_redraws hg hheld credentials message
    · exact Plan.ofRestart_redraws hg hheld credentials message

/-- Whether what is planned over redrawn flows is the same plan in the same world, over them. -/
structure PlanRedraws (leeway : Leeway) (flows : Flows) (logs : List (String × LogEntry))
    (planned planned' : Plan × World) : Prop where
  plan : planned.1.Redraws leeway planned'.1
  world : planned'.2 = planned.2.redrawn flows logs

theorem World.planStart_redrawn (hf : w.flows.Redraws leeway Stays flows)
    (hstand : w.StandAt Stays) (logs : List (String × LogEntry)) (flow : String)
    (channel : ChannelAccess) (customer : String) (message : InboundMessage) (initial : Object) :
    PlanRedraws leeway flows logs (w.planStart flow channel customer message initial)
      ((w.redrawn flows logs).planStart flow channel customer message initial) := by
  have hload := hf.load? flow
  unfold planStart
  rw [flows_redrawn]
  generalize w.flows.load? flow = loaded at hload ⊢
  generalize flows.load? flow = loaded' at hload ⊢
  cases hload with
  | none => exact ⟨.same _ fun _ => Plan.noConfusion, rfl⟩
  | @some graph graph' hg =>
  dsimp only
  rw [hg.trigger?]
  cases ht : graph.trigger? with
  | none => exact ⟨.same _ fun _ => Plan.noConfusion, rfl⟩
  | some trigger =>
  have hstays := hg.stays trigger (List.mem_of_find?_eq_some ht)
  dsimp only
  rw [admits_redrawn, findActive?_redrawn]
  split
  · exact ⟨.walk (.ofDeparture ⟨graph, trigger, _⟩ channel.credentials message) graph'
      (graph'.firstTarget? trigger.id) (hg.first _ hstays), rfl⟩
  · cases hfound : w.executions.findActive? customer channel.id with
    | none => exact ⟨.same _ fun _ => Plan.noConfusion, rfl⟩
    | some held =>
      obtain ⟨hheld, -, -, hactive⟩ := Executions.findActive?_some hfound
      dsimp only
      split
      · exact ⟨Plan.ofMessage_redraws (w := w.withAttempts (w.executions.attempts + 1)) hf
          (hstand held hheld hactive) channel.credentials message logs, rfl⟩
      · exact ⟨.same _ fun _ => Plan.noConfusion, rfl⟩

theorem World.planTimer_redrawn (hf : w.flows.Redraws leeway Stays flows)
    (hstand : w.StandAt Stays) (logs : List (String × LogEntry)) (id : String)
    (version : Option Int) :
    PlanRedraws leeway flows logs (w.planTimer id version)
      ((w.redrawn flows logs).planTimer id version) := by
  unfold planTimer
  rw [get?_redrawn, outside_redrawn]
  cases hfound : w.executions.get? id with
  | none => exact ⟨.same _ fun _ => Plan.noConfusion, rfl⟩
  | some held =>
  dsimp only
  split
  · exact ⟨.same _ fun _ => Plan.noConfusion, rfl⟩
  next hready =>
  have hw : held.waitsForTimer = true := by
    simp only [Bool.or_eq_true, Bool.not_eq_true', not_or, Bool.not_eq_false] at hready
    exact hready.1
  have hactive : held.status.isActive = true :=
    congrArg ExecutionStatus.isActive (Execution.waitsForTimer_iff.1 hw).1
  split
  · exact ⟨.same _ fun _ => Plan.noConfusion, rfl⟩
  refine ⟨Plan.inFlow_redraws hf logs held.flowId fun graph graph' hg => ?_, rfl⟩
  exact .walk (.ofTimer graph held (w.channels.credentials held.channelId)) graph'
    ((held.currentNode.bind (graph'.nextEdge? · none)).map (·.target))
    (hg.leave _ (hstand held (Executions.get?_some hfound).1 hactive))

/-- **An invocation over redrawn flows sets out to do the same** in the redrawn graph. -/
theorem Invocation.plan_redrawn (hf : w.flows.Redraws leeway Stays flows)
    (hstand : w.StandAt Stays) (logs : List (String × LogEntry)) (call : Invocation) :
    PlanRedraws leeway flows logs (call.plan w) (call.plan (w.redrawn flows logs)) := by
  cases call with
  | start flow channel customer message initial =>
    exact World.planStart_redrawn hf hstand logs flow channel customer message initial
  | timer id version => exact World.planTimer_redrawn hf hstand logs id version
  | inbound channel customer message initial =>
    simp only [plan, World.planInbound]
    rw [World.findActive?_redrawn, World.flows_redrawn, hf.offered]
    cases hfound : w.executions.findActive? customer channel.id with
    | some held =>
      obtain ⟨hheld, -, -, hactive⟩ := Executions.findActive?_some hfound
      exact ⟨Plan.ofMessage_redraws hf (hstand held hheld hactive) channel.credentials message logs,
        rfl⟩
    | none =>
    cases firstStarted? message.text (w.flows.offered channel.id) with
    | error failure => exact ⟨.same _ fun _ => Plan.noConfusion, rfl⟩
    | ok chosen =>
      cases chosen with
      | none => exact ⟨.same _ fun _ => Plan.noConfusion, rfl⟩
      | some flow =>
        exact World.planStart_redrawn hf hstand logs flow.id channel customer message initial

end Plans

/-! ## Carrying it out -/

/-- Whether work over redrawn flows came to the same as other work: the worlds that the two leave
differ in the flows and in the additional entries only. -/
def DoneRedraws (leeway : Leeway) (flows : Flows)
    (done done' : Except Failure Outcome × World) : Prop :=
  ∃ logs, done' = (done.1, done.2.redrawn flows logs) ∧ leeway.Logs done.2.executions.logs logs

/-- A walk with additional entries changes the same in its execution. -/
theorem Walk.Adds.patch?_eq {Extra : LogEntry → Prop} {walk walk' : Walk}
    (h : walk.Adds Extra walk') (now : Moment) : walk'.patch? now = walk.patch? now := by
  unfold Walk.patch?
  rw [h.ending, h.scene]

namespace Leg

variable {leg : Leg} {graph : FlowGraph} {next : Option String} {w : World} {flows : Flows}
  {logs : List (String × LogEntry)}

/-- A walk that was matched leaves the same behind before it is written. -/
theorem walked_redrawn
    (hadds : (leg.walk w).Adds leeway.Extra
      (({ leg with graph, next } : Leg).walk (w.redrawn flows logs)))
    (hlogs : leeway.Logs w.executions.logs logs) :
    ∃ logs', ({ leg with graph, next } : Leg).walked (w.redrawn flows logs) =
        (leg.walked w).redrawn flows logs' ∧
      leeway.Logs (leg.walked w).executions.logs logs' := by
  unfold walked Walk.logged
  rw [hadds.ending, hadds.scene]
  cases (leg.walk w).ending with
  | failed node cause => exact ⟨_, rfl, hlogs.append (.refl _)⟩
  | parked | completed => exact ⟨_, rfl, hlogs⟩

/-- A walk that was matched changes the same, or fails for the same reason. -/
theorem patch?_redrawn
    (hadds : (leg.walk w).Adds leeway.Extra
      (({ leg with graph, next } : Leg).walk (w.redrawn flows logs))) :
    ({ leg with graph, next } : Leg).patch? (w.redrawn flows logs) = leg.patch? w := by
  unfold patch?
  rw [hadds.patch?_eq, walked, walked]
  dsimp only
  rw [hadds.scene]

end Leg

namespace Plan

variable {w : World} {flows : Flows} {logs : List (String × LogEntry)}

/-- **A walk that was matched is written in the same way**, with the additional entries. -/
theorem exec_walk_redrawn {leg : Leg} {graph : FlowGraph} {next : Option String}
    (hheld : leg.held ∈ w.executions.rows)
    (hadds : (leg.walk w).Adds leeway.Extra
      (({ leg with graph, next } : Leg).walk (w.redrawn flows logs)))
    (hlogs : leeway.Logs w.executions.logs logs) :
    DoneRedraws leeway flows ((Plan.walk leg).carryOut.exec w)
      ((Plan.walk { leg with graph, next }).carryOut.exec (w.redrawn flows logs)) := by
  have hheld' : ({ leg with graph, next } : Leg).held ∈ (w.redrawn flows logs).executions.rows :=
    hheld
  obtain ⟨logs', hwalked, hlogs'⟩ := Leg.walked_redrawn hadds hlogs
  rw [exec_walk hheld, exec_walk hheld', Leg.patch?_redrawn hadds, hwalked]
  cases leg.patch? w with
  | error failure => exact ⟨logs', rfl, hlogs'⟩
  | ok patch =>
    have hentries : Interspersed leeway.Extra (leg.entries w) _ :=
      Interspersed.append (.refl leg.before) hadds.entries
    exact ⟨_, rfl, hlogs'.append (hentries.map fun _ => id)⟩

/-- A message is noted in the same way. -/
theorem exec_note_redrawn {held : Execution} (message : InboundMessage)
    (hheld : held ∈ w.executions.rows) (hlogs : leeway.Logs w.executions.logs logs) :
    DoneRedraws leeway flows ((Plan.note held message).carryOut.exec w)
      ((Plan.note held message).carryOut.exec (w.redrawn flows logs)) := by
  have hheld' : held ∈ (w.redrawn flows logs).executions.rows := hheld
  rw [exec_note message hheld, exec_note message hheld']
  exact ⟨_, rfl, hlogs.append (.refl _)⟩

end Plan

variable {Stays : String → Option String → Prop} {w : World} {flows : Flows}
  {logs : List (String × LogEntry)}

/-- Whether the walk of an event, if it sets out on one, is one of those that are compared. -/
def Leeway.Permits (leeway : Leeway) (w : World) (event : Event) : Prop :=
  ∀ leg w', w.walk? event = some (leg, w') → leeway.Compares (leg.itinerary w')

/-- **An invocation over redrawn flows comes to the same**, and leaves a world that differs in its
flows and in additional entries only. -/
theorem World.perform_redrawn (hf : w.flows.Redraws leeway Stays flows)
    (hstand : w.StandAt Stays) (hlogs : leeway.Logs w.executions.logs logs) (call : Invocation)
    (hcompares : leeway.Permits (w.redrawn flows logs) (.invoke call)) :
    DoneRedraws leeway flows (call.perform.exec w) (call.perform.exec (w.redrawn flows logs)) := by
  have hplanned := call.planned w
  have hredraws := call.plan_redrawn hf hstand logs
  rw [call.perform_eq_plan, call.perform_eq_plan]
  rcases hplan : call.plan w with ⟨plan, after⟩
  rcases hplan' : call.plan (w.redrawn flows logs) with ⟨plan', after'⟩
  rw [hplan] at hplanned
  rw [hplan, hplan'] at hredraws
  obtain ⟨hplans, rfl⟩ := hredraws
  -- no plan touches the logs before it is carried out
  have hafter : leeway.Logs after.executions.logs logs := by
    cases hplanned with
    | walk leg after hl => cases hl <;> exact hlogs
    | answer | refuse | block | note => exact hlogs
  cases hplans with
  | walk leg graph next hmatches =>
    cases hplanned with
    | walk leg after hl =>
      exact Plan.exec_walk_redrawn hl.held_mem
        (hmatches leg.recipient _ leg.held.currentNode _
          (hcompares _ _ (World.walk?_of_plan hplan'))) hafter
  | same plan hno =>
    cases hplanned with
    | walk leg after hl => exact absurd rfl (hno leg)
    | note held message attempts ha hheld => exact Plan.exec_note_redrawn message hheld hafter
    | answer outcome | refuse failure | block flow failure => exact ⟨logs, rfl, hafter⟩

/-! ## Runs -/

/-- The event over other flows. -/
def Event.over (flows : Flows) : Event → Event
  | .invoke call => .invoke call
  | .change world => .change (world.withFlows flows)

/-- Whether an event leaves the flows alone. -/
def Event.KeepsFlows (w : World) (event : Event) : Prop :=
  ∀ world, event = .change world → world.flows = w.flows

namespace World

/-- An event that leaves the flows alone does so. -/
theorem flows_next {event : Event} (h : event.KeepsFlows w) : (w.next event).flows = w.flows := by
  cases event with
  | invoke call => exact (frame_next w call).2
  | change world => exact h world rfl

/-- **Where executions stand.** After an event the active executions stand where they stood before,
or at a node of their flow, and nodes stay. -/
theorem standAt_next (hs : w.executions.Sound) (hf : w.flows.Redraws leeway Stays flows)
    (hstand : w.StandAt Stays) (event : Event) : (w.next event).StandAt Stays := by
  intro row hrow hactive
  have hnode : ∀ {leg : Leg} {after : World} {call : Invocation}, SetsOut w call leg after →
      ∀ node ∈ leg.graph.nodes, Stays leg.held.flowId (some node.id) := by
    intro leg after call hl node hnode
    have hload := hf.load? leg.held.flowId
    rw [hl.load?_eq] at hload
    generalize flows.load? leg.held.flowId = loaded' at hload
    cases hload with
    | some hg => exact hg.stays node hnode
  cases stems_of_mem_next hs hrow with
  | keeps h => exact hstand row h hactive
  | notes before vars h he =>
    subst he
    exact hstand before h hactive
  | held leg after hwalk he =>
    subst he
    obtain ⟨call, -, -, hl⟩ := walk?_some hwalk
    rcases hl.active_or_new with ⟨hheld, -⟩ | ⟨trigger, ht, hcurrent, -⟩
    · exact hstand leg.held hheld hactive
    · rw [hcurrent]
      exact hnode hl trigger (List.mem_of_find?_eq_some ht)
  | walks leg after patch hwalk hpatch he =>
    subst he
    obtain ⟨call, -, -, hl⟩ := walk?_some hwalk
    rcases Walk.patch?_ok hpatch with ⟨id, reason, resumeAt, he, -, hcurrent⟩ | ⟨-, hstatus⟩
    · obtain ⟨node, hmem, hid, -⟩ := walkFrom_parked he
      have hplace : (patch.apply leg.held).currentNode = some node.id := by
        rw [Patch.apply, hcurrent, FlowGraph.node?_id hid]
        rfl
      rw [hplace]
      exact hnode hl node hmem
    · -- a walk that is completed leaves its execution inactive
      rw [Patch.apply, hstatus] at hactive
      cases hactive

theorem standAt_throughout {events : List Event} (hs : w.executions.Sound)
    (hf : w.flows.Redraws leeway Stays flows)
    (hkeep : w.Throughout (fun now event => event.KeepsFlows now) events)
    (hstand : w.StandAt Stays) : w.Throughout (fun now _ => now.StandAt Stays) events := by
  refine hkeep.of_step (fun now => now.executions.Sound ∧
    now.flows.Redraws leeway Stays flows ∧ now.StandAt Stays) ⟨hs, hf, hstand⟩ ?_
  rintro now event ⟨hsound, hredraws, hstands⟩ hkeeps
  refine ⟨hstands, sound_next hsound event, ?_, standAt_next hsound hredraws hstands event⟩
  rw [flows_next hkeeps]
  exact hredraws

/-- What came of the invocations of a run, in order. -/
def results : World → List Event → List (Except Failure Outcome)
  | _, [] => []
  | w, .invoke call :: rest => (call.perform.exec w).1 :: (w.next (.invoke call)).results rest
  | w, .change world :: rest => (w.next (.change world)).results rest

/-- **A run over redrawn flows comes to the same**, and leaves a world that differs in its flows and
in additional entries only. -/
theorem play_redrawn {events : List Event} (hf : w.flows.Redraws leeway Stays flows)
    (hkeep : w.Throughout (fun now event => event.KeepsFlows now) events)
    (hstand : w.Throughout (fun now _ => now.StandAt Stays) events)
    (hlogs : leeway.Logs w.executions.logs logs)
    (hpermits : (w.redrawn flows logs).Throughout leeway.Permits (events.map (·.over flows))) :
    (w.redrawn flows logs).results (events.map (·.over flows)) = w.results events ∧
      ∃ logs', (w.redrawn flows logs).play (events.map (·.over flows)) =
          (w.play events).redrawn flows logs' ∧
        leeway.Logs (w.play events).executions.logs logs' := by
  induction events generalizing w logs with
  | nil => exact ⟨rfl, logs, rfl, hlogs⟩
  | cons event rest ih =>
    have hf' : (w.next event).flows.Redraws leeway Stays flows := by
      rw [flows_next hkeep.1]
      exact hf
    cases event with
    | change world => exact ih hf' hkeep.2 hstand.2 hlogs hpermits.2
    | invoke call =>
      obtain ⟨logs', hdone, hlogs'⟩ := perform_redrawn hf hstand.1 hlogs call hpermits.1
      have hnext : (w.redrawn flows logs).next (.invoke call) =
          (w.next (.invoke call)).redrawn flows logs' := congrArg Prod.snd hdone
      have hpermits' : ((w.redrawn flows logs).next (.invoke call)).Throughout leeway.Permits
          (rest.map (·.over flows)) := hpermits.2
      rw [hnext] at hpermits'
      obtain ⟨hresults, hplay⟩ := ih hf' hkeep.2 hstand.2 hlogs' hpermits'
      refine ⟨?_, ?_⟩
      · show (call.perform.exec (w.redrawn flows logs)).1 ::
          ((w.redrawn flows logs).next (.invoke call)).results _ = _
        rw [hnext, hresults, hdone]
        rfl
      · show ∃ logs', ((w.redrawn flows logs).next (.invoke call)).play _ = _ ∧ _
        rw [hnext]
        exact hplay

end World

end

end ChatFlow

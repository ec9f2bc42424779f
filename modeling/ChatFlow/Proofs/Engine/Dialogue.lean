import ChatFlow.Engine.Invocation

/-!
# Dialogues that are held in one go

What the engine does over many messages, with nothing but a store to remember by, could be done by
an interpreter that just waits in the middle of its work until the next message comes. This is that
interpreter. It goes from node to node (`Travels`) and keeps the node that asked and the variables
as values of its own (`Stand`). It takes a message for the reply to the question at hand, or, if
there is none, tries the triggers (`Answers`), and so on with the messages that follow
(`Converses`). It has no store, no versions, no timers and no limit of its steps.

Main statement: `Converses.unique`, a dialogue takes one course.
-/

namespace ChatFlow

/-! ## Through a graph -/

/-- Where a journey through a graph comes to an end. -/
inductive Stop where
  /-- Nothing is left to do. -/
  | done
  /-- A node asks for a reply. -/
  | asks (node : FlowNode)

/-- How an execution stands after a journey. -/
def Stop.status : Stop → ExecutionStatus
  | .done => .completed
  | .asks _ => .waiting

/-- A journey through a graph from a node, if there is one: the nodes whose work is done on the way,
in order, where it ends, and how it leaves the scene. -/
inductive Travels (graph : FlowGraph) (recipient : Recipient) :
    (next : Option String) → Scene → List FlowNode → Stop → Scene → Prop where
  /-- There is no edge to follow, or it leads nowhere. -/
  | deadEnd {next : Option String} {scene : Scene} (h : next.bind graph.node? = none) :
      Travels graph recipient next scene [] .done scene
  | finishes {next : Option String} {scene after : Scene} {node : FlowNode} {result : NodeResult}
      (hn : next.bind graph.node? = some node)
      (hact : (node.act recipient).run.run scene = (.ok result, after))
      (hr : result.next = .finish) : Travels graph recipient next scene [node] .done after
  | asks {next : Option String} {scene after : Scene} {node : FlowNode} {result : NodeResult}
      {reason : String} (hn : next.bind graph.node? = some node)
      (hact : (node.act recipient).run.run scene = (.ok result, after))
      (hr : result.next = .wait reason none) :
      Travels graph recipient next scene [node] (.asks node) after
  | leaves {next : Option String} {scene after last : Scene} {node : FlowNode} {result : NodeResult}
      {handle : Option String} {nodes : List FlowNode} {stop : Stop}
      (hn : next.bind graph.node? = some node)
      (hact : (node.act recipient).run.run scene = (.ok result, after))
      (hr : result.next = .leave handle)
      (rest : Travels graph recipient ((graph.nextEdge? node.id handle).map (·.target)) after nodes
        stop last) :
      Travels graph recipient next scene (node :: nodes) stop last

/-- A journey begins with the work of its first node and goes on as this work ended. -/
theorem Travels.of_act {graph : FlowGraph} {recipient : Recipient} {next : Option String}
    {scene after last : Scene} {node : FlowNode} {result : NodeResult} {nodes : List FlowNode}
    {stop : Stop} (h : Travels graph recipient next scene nodes stop last)
    (hn : next.bind graph.node? = some node)
    (hact : (node.act recipient).run.run scene = (.ok result, after)) :
    match result.next with
    | .finish => nodes = [node] ∧ stop = .done ∧ last = after
    | .wait _ _ => nodes = [node] ∧ stop = .asks node ∧ last = after
    | .leave handle => ∃ rest, nodes = node :: rest ∧ Travels graph recipient
        ((graph.nextEdge? node.id handle).map (·.target)) after rest stop last := by
  cases h with
  | deadEnd hnone =>
    rw [hnone] at hn
    cases hn
  | finishes hn' hact' hr | asks hn' hact' hr =>
    obtain rfl := Option.some.inj (hn.symm.trans hn')
    cases hact.symm.trans hact'
    rw [hr]
    exact ⟨rfl, rfl, rfl⟩
  | leaves hn' hact' hr rest =>
    obtain rfl := Option.some.inj (hn.symm.trans hn')
    cases hact.symm.trans hact'
    rw [hr]
    exact ⟨_, rfl, rest⟩

/-- A journey takes one course. -/
theorem Travels.unique {graph : FlowGraph} {recipient : Recipient} {next : Option String}
    {scene after after' : Scene} {nodes nodes' : List FlowNode} {stop stop' : Stop}
    (h : Travels graph recipient next scene nodes stop after)
    (h' : Travels graph recipient next scene nodes' stop' after') :
    nodes = nodes' ∧ stop = stop' ∧ after = after' := by
  induction h generalizing nodes' with
  | deadEnd hn =>
    cases h' with
    | deadEnd => exact ⟨rfl, rfl, rfl⟩
    | finishes hn' | asks hn' | leaves hn' =>
      rw [hn] at hn'
      cases hn'
  | finishes hn hact hr | asks hn hact hr =>
    have hsame := h'.of_act hn hact
    rw [hr] at hsame
    obtain ⟨rfl, rfl, rfl⟩ := hsame
    exact ⟨rfl, rfl, rfl⟩
  | leaves hn hact hr rest ih =>
    have hsame := h'.of_act hn hact
    rw [hr] at hsame
    obtain ⟨others, rfl, hrest⟩ := hsame
    obtain ⟨rfl, hstop, hafter⟩ := ih hrest
    exact ⟨rfl, hstop, hafter⟩

/-! ## From message to message -/

/-- What the interpreter keeps between messages. -/
inductive Stand where
  /-- No question is open. -/
  | idle
  /-- A node of a graph has asked for a reply. -/
  | asked (graph : FlowGraph) (node : FlowNode) (vars : Object)

/-- What the interpreter keeps after a journey. -/
def Stop.stand (graph : FlowGraph) (vars : Object) : Stop → Stand
  | .done => .idle
  | .asks node => .asked graph node vars

/-- A message that arrives, the variables with which it would start a flow, and what happens outside
before it arrives. -/
structure Arrival where
  meanwhile : Outside → Outside
  message : InboundMessage
  initial : Object

/-- What can be seen of the answer to a message. -/
structure Turn where
  /-- The nodes whose work was begun, in order. -/
  nodes : List FlowNode
  /-- All that was sent to the provider so far, in order. -/
  sent : List ProviderRequest
  /-- The status and the variables of the execution that the message was for, if there is one, or
  why none could be started. -/
  left : Except Failure (Option (ExecutionStatus × Object))

/-- What can be seen of a journey. -/
def Stop.turn (stop : Stop) (nodes : List FlowNode) (after : Scene) : Turn :=
  ⟨nodes, after.outside.provider.requests, .ok (some (stop.status, after.env.vars))⟩

/-- Where the dialogue about a flow starts: its graph and its trigger. -/
def Flows.opening (flows : Flows) (flow : String) : Except Failure (FlowGraph × FlowNode) :=
  match flows.load? flow with
  | none => .error (.unknownFlow flow)
  | some graph =>
    match graph.trigger? with
    | none => .error (.noTrigger flow)
    | some trigger => .ok (graph, trigger)

variable (flows : Flows) (channel : ChannelAccess) (customer : String)

/-- How the interpreter answers a message: from where it stands, with what outside, what is seen of
the answer, and where it stands afterwards, with what outside. -/
inductive Answers (arrival : Arrival) : Stand → Outside → Turn → Stand → Outside → Prop where
  /-- The text of the message cannot be compared with the triggers. -/
  | refused {outside : Outside} {failure : Failure}
      (h : firstStarted? arrival.message.text (flows.offered channel.id) = .error failure) :
      Answers arrival .idle outside ⟨[], outside.provider.requests, .error failure⟩ .idle outside
  | unmatched {outside : Outside}
      (h : firstStarted? arrival.message.text (flows.offered channel.id) = .ok none) :
      Answers arrival .idle outside ⟨[], outside.provider.requests, .ok none⟩ .idle outside
  | unopened {outside : Outside} {flow : Flow} {failure : Failure}
      (h : firstStarted? arrival.message.text (flows.offered channel.id) = .ok (some flow))
      (ho : flows.opening flow.id = .error failure) :
      Answers arrival .idle outside ⟨[], outside.provider.requests, .error failure⟩ .idle outside
  /-- The message starts a flow, with the variables given and what the message tells. -/
  | starts {outside : Outside} {flow : Flow} {graph : FlowGraph} {trigger : FlowNode}
      {nodes : List FlowNode} {stop : Stop} {after : Scene}
      (h : firstStarted? arrival.message.text (flows.offered channel.id) = .ok (some flow))
      (ho : flows.opening flow.id = .ok (graph, trigger))
      (ht : Travels graph ⟨customer, channel.id, channel.credentials⟩
        (graph.firstTarget? trigger.id)
        ⟨.ofVariables (arrival.initial.update arrival.message.observed), outside⟩ nodes stop
        after) :
      Answers arrival .idle outside (stop.turn nodes after) (stop.stand graph after.env.vars)
        after.outside
  /-- The message is the reply: what it tells goes to the variables, the reply to its own, and the
  node is left by its first edge. -/
  | replies {outside : Outside} {graph : FlowGraph} {node : FlowNode} {vars : Object}
      {reply : Option String} {nodes : List FlowNode} {stop : Stop} {after : Scene}
      (hr : node.replyVariable? = .ok reply)
      (ht : Travels graph ⟨customer, channel.id, channel.credentials⟩ (graph.firstTarget? node.id)
        ⟨bindReply (.ofVariables (vars.update arrival.message.observed)) reply arrival.message.text,
          outside⟩ nodes stop after) :
      Answers arrival (.asked graph node vars) outside (stop.turn nodes after)
        (stop.stand graph after.env.vars) after.outside

/-- What is seen of the answers to messages that arrive one after the other. -/
inductive Converses : Stand → Outside → List Arrival → List Turn → Prop where
  | nil {stand : Stand} {outside : Outside} : Converses stand outside [] []
  | cons {stand stand' : Stand} {outside outside' : Outside} {arrival : Arrival}
      {arrivals : List Arrival} {turn : Turn} {turns : List Turn}
      (h : Answers flows channel customer arrival stand (arrival.meanwhile outside) turn stand'
        outside')
      (rest : Converses stand' outside' arrivals turns) :
      Converses stand outside (arrival :: arrivals) (turn :: turns)

variable {flows : Flows} {channel : ChannelAccess} {customer : String}

/-- There is one answer to a message. -/
theorem Answers.unique {arrival : Arrival} {stand after after' : Stand}
    {outside left left' : Outside} {turn turn' : Turn}
    (h : Answers flows channel customer arrival stand outside turn after left)
    (h' : Answers flows channel customer arrival stand outside turn' after' left') :
    turn = turn' ∧ after = after' ∧ left = left' := by
  cases h with
  | refused hf =>
    cases h' with
    | refused hf' =>
      cases hf.symm.trans hf'
      exact ⟨rfl, rfl, rfl⟩
    | unmatched hf' | unopened hf' | starts hf' => cases hf.symm.trans hf'
  | unmatched hf =>
    cases h' with
    | unmatched => exact ⟨rfl, rfl, rfl⟩
    | refused hf' | unopened hf' | starts hf' => cases hf.symm.trans hf'
  | unopened hf ho =>
    cases h' with
    | refused hf' | unmatched hf' => cases hf.symm.trans hf'
    | unopened hf' ho' =>
      cases hf.symm.trans hf'
      cases ho.symm.trans ho'
      exact ⟨rfl, rfl, rfl⟩
    | starts hf' ho' =>
      cases hf.symm.trans hf'
      cases ho.symm.trans ho'
  | starts hf ho ht =>
    cases h' with
    | refused hf' | unmatched hf' => cases hf.symm.trans hf'
    | unopened hf' ho' =>
      cases hf.symm.trans hf'
      cases ho.symm.trans ho'
    | starts hf' ho' ht' =>
      cases hf.symm.trans hf'
      cases ho.symm.trans ho'
      obtain ⟨rfl, rfl, rfl⟩ := ht.unique ht'
      exact ⟨rfl, rfl, rfl⟩
  | replies hr ht =>
    cases h' with
    | replies hr' ht' =>
      cases hr.symm.trans hr'
      obtain ⟨rfl, rfl, rfl⟩ := ht.unique ht'
      exact ⟨rfl, rfl, rfl⟩

/-- **A dialogue takes one course.** -/
theorem Converses.unique {stand : Stand} {outside : Outside} {arrivals : List Arrival}
    {turns turns' : List Turn} (h : Converses flows channel customer stand outside arrivals turns)
    (h' : Converses flows channel customer stand outside arrivals turns') : turns = turns' := by
  induction h generalizing turns' with
  | nil =>
    cases h'
    rfl
  | cons h rest ih =>
    cases h' with
    | cons h' rest' =>
      obtain ⟨rfl, rfl, rfl⟩ := h.unique h'
      rw [ih rest']

end ChatFlow

import ChatFlow.Proofs.Engine.Notes
import ChatFlow.Proofs.Value.Sharing

/-!
# The reply to a question

An execution that waits for a reply goes on when the next message of its customer comes. The walk
does not begin at the node that asked, but behind the first edge out of it, whatever the handle of
this edge. It begins with the variables that were stored, on which first what the message tells was
put and then, at the path that the node names, the reply itself (`Execution.Replied`). The two can
meet, and a path can lead through what is no object: the reply is found at its path anyhow.

Main statement: `World.reply_bound`.
-/

namespace ChatFlow

/-! ## The first node of a walk -/

/-- The id that a waypoint was reached by. -/
def Waypoint.id : Waypoint → String
  | .visited node | .halted node => node.id
  | .missing id => id

/-- What a walk meets first is where it is to begin. -/
theorem head?_itinerary (graph : FlowGraph) (recipient : Recipient) (steps : Nat)
    (next : Option String) (scene : Scene) :
    (itinerary graph recipient steps next scene).head?.map Waypoint.id = next := by
  have hfound : ∀ {next : Option String} {node : FlowNode},
      next.bind graph.node? = some node → some node.id = next := by
    intro next node h
    obtain ⟨id, hid, hnode⟩ := Option.bind_eq_some_iff.1 h
    rw [hid, FlowGraph.node?_id hnode]
  fun_induction itinerary graph recipient steps next scene with
  | case1 steps next => cases next <;> rfl
  | case2 _ _ node hnode | case3 _ _ node hnode | case4 _ _ node hnode | case5 _ _ node hnode
  | case6 _ _ node hnode => exact hfound hnode

/-! ## The variables -/

/-- What the variables are when a message was taken for the reply to a question, and the node that
asked names a path for it. -/
structure Execution.Replied (row : Execution) (message : InboundMessage)
    (path? : Option String) (vars : Object) : Prop where
  /-- The reply is read at the path. -/
  reply : ∀ path, path? = some path → vars.read? path = .ok (some message.text)
  /-- What the message tells is in the variables named so, apart from the one that holds the
  reply. -/
  told : ∀ name value, (∀ path, path? = some path → firstSegment path ≠ name) →
    message.observed.field? name = some value → vars.field? name = some value
  /-- Every other variable is the stored one. -/
  kept : ∀ name, (∀ path, path? = some path → firstSegment path ≠ name) →
    message.observed.field? name = none → vars.field? name = row.vars.field? name

/-- Binding a reply makes the variables so. -/
theorem Execution.replied_bindReply (row : Execution) (message : InboundMessage)
    {path? : Option String} (hne : path? ≠ some "") :
    row.Replied message path?
      (bindReply (.ofVariables (row.after message)) path? message.text).vars := by
  have hafter : ∀ name, (row.after message).field? name =
      (message.observed.field? name).or (row.vars.field? name) := fun name =>
    Object.field?_update message.nodup_observed row.vars name
  cases path? with
  | none =>
    refine ⟨fun _ h => ?_, fun name value _ h => ?_, fun name _ h => ?_⟩
    · cases h
    · exact (hafter name).trans (by rw [h]; rfl)
    · exact (hafter name).trans (by rw [h]; rfl)
  | some path =>
    have hown := Env.owns_ofVariables (row.after message) (Path.ofText path)
    obtain ⟨rest, hpath, -⟩ := Path.ofText_spec path
    have hframe : ∀ name, firstSegment path ≠ name →
        (bindReply (.ofVariables (row.after message)) (some path) message.text).vars.field? name =
          (message.observed.field? name).or (row.vars.field? name) := by
      intro name hother
      rw [← hafter name, bindReply, Env.writeSame, hpath]
      exact (hpath ▸ hown).field?_assign_of_ne hother message.text _
    refine ⟨fun _ h => ?_, fun name value hother h => ?_, fun name hother h => ?_⟩
    · cases h
      exact Object.read?_of_at? (fun h => hne (congrArg some h))
        (hown.isWritten_assign (Path.ofText_ne_nil path) _ _).found
    · rw [hframe name (hother path rfl), h]
      rfl
    · rw [hframe name (hother path rfl), h]
      rfl

/-! ## Going on -/

/-- A node that asks for a reply names no empty path for it, unless its configuration cannot be
read. -/
theorem FlowNode.asks_or_unreadable {node : FlowNode} (h : node.type = "waitForReply") :
    (∃ expected path?, node.configured? = some (.waitForReply expected path?) ∧ path? ≠ some "") ∨
      ∃ report, NodeType.waitForReply.configure node.config = .error report ∧
        node.replyVariable? = .error (.config report) := by
  have htype : NodeType.ofName? node.type = some .waitForReply := by rw [h]; rfl
  rw [configured?, replyVariable?, htype, Option.bind_some]
  cases hread : NodeType.waitForReply.readConfig node.config with
  | error report =>
    have hconfig : NodeType.waitForReply.configure node.config = .error report := by
      rw [NodeType.configure, hread]
      rfl
    exact .inr ⟨report, hconfig, by simp only [hconfig]⟩
  | ok fields =>
    rw [NodeType.configure, hread]
    refine .inl ⟨_, fields.presentText "variable_name", rfl, fun hempty => ?_⟩
    exact presentText?_ne_empty hempty rfl

namespace Leg

variable {leg : Leg} {w : World}

/-- A walk that begins nowhere leaves everything as it is and is at its end. -/
theorem patch?_of_next_none (h : leg.next = none) :
    ∃ patch, leg.patch? w = .ok patch ∧ leg.walked w = w ∧
      (patch.apply leg.held).status = .completed ∧
      (patch.apply leg.held).vars = leg.env.vars := by
  have hwalk : leg.walk w = ⟨.completed leg.held.currentNode, [], ⟨leg.env, w.outside⟩⟩ := by
    rw [walk, h, walkFrom]
    rfl
  have hwalked : leg.walked w = w := by rw [walked, hwalk]; rfl
  rw [patch?, hwalked, hwalk]
  exact ⟨_, rfl, rfl, rfl, rfl⟩

/-- Whether a walk takes a message for the reply to the question of a node. -/
structure TakesReply (leg : Leg) (w : World) (row : Execution) (graph : FlowGraph) (node : FlowNode)
    (message : InboundMessage) (path? : Option String) : Prop where
  held : leg.held = row
  walked : leg.graph = graph
  /-- What the walk meets first is the target of the first edge out of the node, whatever the handle
  of this edge. -/
  starts : (leg.itinerary w).head?.map Waypoint.id = (graph.outgoing node.id).head?.map (·.target)
  /-- The variables with which the walk begins have the reply. -/
  replied : row.Replied message path? leg.env.vars

theorem takesReply_ofReply {graph : FlowGraph} {row : Execution} {node : FlowNode}
    (credentials : Credentials) (message : InboundMessage) {path? : Option String}
    (hne : path? ≠ some "") :
    (ofReply graph row credentials message node path?).TakesReply w row graph node message
      path? where
  held := rfl
  walked := rfl
  starts := head?_itinerary _ _ _ _ _
  replied := row.replied_bindReply message hne

end Leg

/-- **A reply is bound, and the walk goes on behind the question.** Let an execution wait at a node
of its flow that asks for a reply, and not for a timer. Either the node cannot be read any more, and
then going on with the execution fails and changes nothing. Or it takes the next message for the
reply: it sets out on a walk that begins at the target of the first edge out of the node, so it
meets the node again at once only if this edge leads back to it. The walk begins with the variables
that were stored, what the message tells and the reply. If there is no edge out of the node, the
execution is completed with these variables. -/
theorem World.reply_bound {w : World} (hw : w.executions.Sound) {row : Execution}
    {graph : FlowGraph} {node : FlowNode} (hrow : row ∈ w.executions.rows)
    (hs : row.status = .waiting) (hreason : row.waitingFor ≠ some timerReason)
    (hg : w.flows.load? row.flowId = some graph)
    (hn : row.currentNode.bind graph.node? = some node) (hask : node.type = "waitForReply")
    (credentials : Credentials) (message : InboundMessage) :
    let work := Work.continueWith row credentials message >>= Work.submit
    (∃ report, NodeType.waitForReply.configure node.config = .error report ∧
      work.exec w = (.error (.config report), w)) ∨
    ∃ expected path?, node.configured? = some (.waitForReply expected path?) ∧
      let leg := Leg.ofReply graph row credentials message node path?
      leg.TakesReply w row graph node message path? ∧
      work.exec w = (Plan.walk leg).carryOut.exec w ∧
      (graph.outgoing node.id = [] → ∃ after w',
        work.exec w = (.ok ⟨.resumed, some row.id, some .completed⟩, w') ∧
        w'.outside = w.outside ∧ w'.executions.get? row.id = some after ∧
        after.status = .completed ∧ after.vars = leg.env.vars) := by
  intro work
  have hno : ¬ row.waitsForTimer = true := fun h => hreason (Execution.waitsForTimer_iff.1 h).2
  have hwork : work.exec w = (Plan.ofReply graph row credentials message).carryOut.exec w := by
    rw [Work.exec_continueWith, Plan.ofMessage_of_load?_some credentials message hno hg, if_pos hs]
  rcases FlowNode.asks_or_unreadable hask with ⟨expected, path?, hc, hne⟩ | ⟨report, hc, hreply⟩
  · refine .inr ⟨expected, path?, hc, ?_⟩
    intro leg
    have hreply : node.replyVariable? = .ok path? := FlowNode.replyVariable?_of_configured hc
    have hwalk : work.exec w = (Plan.walk leg).carryOut.exec w := by
      rw [hwork, Plan.ofReply, hn]
      simp only [hreply]
      rfl
    refine ⟨Leg.takesReply_ofReply credentials message hne, hwalk, fun hout => ?_⟩
    have hnext : leg.next = none := by
      show graph.firstTarget? node.id = none
      rw [FlowGraph.firstTarget?, FlowGraph.firstEdge?, hout]
      rfl
    obtain ⟨patch, hpatch, hwalked, hcompleted, hvars⟩ := leg.patch?_of_next_none (w := w) hnext
    have hwritten : work.exec w = (.ok ⟨.resumed, some row.id, some .completed⟩,
        w.withWritten row patch (leg.entries w)) := by
      rw [hwalk, Plan.exec_walk hrow, hpatch, hwalked, ← hcompleted]
      rfl
    refine ⟨patch.apply row, _, hwritten, rfl, ?_, hcompleted, hvars⟩
    show (w.executions.written row patch _).get? row.id = _
    rw [hw.get?_written hrow, if_pos rfl]
  · refine .inl ⟨report, hc, ?_⟩
    rw [hwork, Plan.ofReply, hn]
    simp only [hreply]
    rfl

/-- A question for a name that has no edge out of it. -/
def nameNode : FlowNode where
  id := "q"
  type := "waitForReply"
  config := .object [("variableName", .text "order.name")]

/-- A flow with this question. -/
def nameGraph : FlowGraph where
  nodes := [⟨"t", "trigger", .null⟩, nameNode]
  edges := [⟨"t", "q", none, 0⟩]

/-- An execution that waits for the name. What is stored as the order is no object. -/
def nameless : Execution where
  id := "exec-1"
  flowId := "f"
  customerId := "x"
  channelId := some "c"
  currentNode := some "q"
  status := .waiting
  waitingFor := some "any"
  vars := [("order", .int 5), ("lang", .text "en")]
  version := 2
  resumeAt := none
  completedAt := none

/-- A world with this execution. -/
def namelessWorld : World :=
  { World.offering ⟨"f", some "c", .anyMessage, 0, true, true⟩ nameGraph with
    executions := ⟨[nameless], [], 1⟩ }

/-- The message with the name. -/
def nameMessage : InboundMessage :=
  ⟨.text "text", .text "Ann", .null, .null, .null, .null⟩

theorem namelessWorld_sound : namelessWorld.executions.Sound := by
  refine ⟨by simp [namelessWorld], fun row hrow n hn hid => ?_⟩
  obtain rfl := List.mem_singleton.1 hrow
  have hfirst : nameless.id = Executions.idOf 1 := by cbv
  exact Nat.ne_of_lt hn (Executions.idOf_injective (hfirst.symm.trans hid))

/-- The name is put in the order, and the execution is completed. -/
theorem World.reply_bound_name : ∃ after w',
    (Work.continueWith nameless ⟨none, none⟩ nameMessage >>= Work.submit).exec namelessWorld =
      (.ok ⟨.resumed, some "exec-1", some .completed⟩, w') ∧
    w'.executions.get? "exec-1" = some after ∧
    after.vars.read? "order.name" = .ok (some (.text "Ann")) ∧
    after.vars.field? "last_message" = some (.text "Ann") ∧
    after.vars.field? "lang" = some (.text "en") := by
  have hconfig : nameNode.configured? = some (.waitForReply "any" (some "order.name")) := by rfl
  have hgraph : namelessWorld.flows.load? nameless.flowId = some nameGraph := by cbv
  have hnode : nameless.currentNode.bind nameGraph.node? = some nameNode := by cbv
  rcases reply_bound namelessWorld_sound (List.mem_singleton_self nameless) rfl (by decide) hgraph
      hnode rfl ⟨none, none⟩ nameMessage with
    ⟨report, hreport, -⟩ | ⟨expected, path?, hc, htakes, -, hends⟩
  · have hread : (NodeType.waitForReply.configure nameNode.config).isOk = true := by cbv
    rw [hreport] at hread
    cases hread
  · rw [hconfig] at hc
    cases hc
    obtain ⟨after, w', hexec, -, hget, -, hvars⟩ := hends (by cbv)
    refine ⟨after, w', hexec, hget, ?_, ?_, ?_⟩
    · rw [hvars]
      exact htakes.replied.reply _ rfl
    · rw [hvars]
      refine htakes.replied.told _ _ (fun path h => ?_) (by cbv)
      cases h
      decide
    · rw [hvars]
      refine (htakes.replied.kept _ (fun path h => ?_) (by cbv)).trans (by cbv)
      cases h
      decide

end ChatFlow

import ChatFlow.Proofs.Engine.Bounds
import ChatFlow.Proofs.Engine.Sending
import ChatFlow.Proofs.Engine.Steps
import ChatFlow.Proofs.Node.Recorded

/-!
# What invocations put on record

Messages go on record while a walk is taken, outside of what is written at its end. So they stay
there whatever comes of the invocation: it may be written, be too late, or fail.

A `Task.Turn` is a step that a task takes in some world, and `Task.turns` are those of a task in
worlds that may have changed between them in any way.

Main statement: `Invocation.records_taken`. What an invocation adds to the records, alone or in
turns, are the messages that its nodes sent and the provider took, all in one conversation.
-/

namespace ChatFlow

/-! ## Walks -/

/-- The messages that nodes sent, in order. -/
def sendingsOf (recipient : Recipient) (dispatched : List Dispatch) : List Sending :=
  dispatched.filterMap fun dispatch => dispatch.node.sending? recipient dispatch.before

theorem sendingsOf_cons (recipient : Recipient) (first : Dispatch) (rest : List Dispatch) :
    sendingsOf recipient (first :: rest) =
      (first.node.sending? recipient first.before).toList ++ sendingsOf recipient rest := by
  rw [sendingsOf, List.filterMap_cons]
  cases first.node.sending? recipient first.before <;> rfl

/-- A node sends at most one message each time that its work begins. -/
theorem sublist_sendingsOf (recipient : Recipient) (dispatched : List Dispatch) :
    ((sendingsOf recipient dispatched).map (·.node)).Sublist (dispatched.map (·.node)) := by
  induction dispatched with
  | nil => exact .slnil
  | cons first rest ih =>
    rw [sendingsOf_cons, FlowNode.sending?]
    cases first.node.message? first.before.env.vars with
    | none => exact ih.cons _
    | some message => exact ih.cons_cons _

/-- The work of a node puts its message on record, whatever it comes to. -/
theorem recordsTaken_of_run {recipient : Recipient} {node : FlowNode} {scene after : Scene}
    {result : Except Failure NodeResult}
    (hact : (node.act recipient).run.run scene = (result, after))
    (hid : ∀ sending ∈ node.sending? recipient scene, sending.hasPlainId = true) :
    RecordsTaken recipient.conversation (node.sending? recipient scene).toList scene.outside.chats
      after.outside.chats := by
  have hrecorded := FlowNode.recordsTaken_act recipient hid
  rw [hact] at hrecorded
  exact hrecorded

/-- **A walk puts on record what the provider took**, whether it parks, completes or fails. -/
theorem walkFrom_recordsTaken (graph : FlowGraph) (recipient : Recipient) (steps : Nat)
    (next last : Option String) (scene : Scene)
    (hid : ∀ sending ∈ sendingsOf recipient (dispatches graph recipient steps next scene),
      sending.hasPlainId = true) :
    RecordsTaken recipient.conversation
      (sendingsOf recipient (dispatches graph recipient steps next scene)) scene.outside.chats
      (walkFrom graph recipient steps next last scene).scene.outside.chats := by
  refine walkFrom_induct (R := fun dispatched before after =>
    (∀ sending ∈ sendingsOf recipient dispatched, sending.hasPlainId = true) →
      RecordsTaken recipient.conversation (sendingsOf recipient dispatched) before.outside.chats
        after.outside.chats) (fun scene _ => .refl _ _) (fun hact hrest hid => ?_)
    steps next last scene hid
  simp only [sendingsOf_cons, List.forall_mem_append, Option.mem_toList] at hid ⊢
  exact (recordsTaken_of_run hact hid.1).trans (hrest hid.2)

/-- The conversation with the customer of an execution. -/
def Execution.conversation (held : Execution) : String :=
  conversationId held.channelId held.customerId

/-- An active execution that is found is one of the customer for whom it was looked for. -/
theorem Executions.conversation_of_findActive? {store : Executions} {customer : String}
    {channel : Option String} {held : Execution}
    (h : store.findActive? customer channel = some held) :
    held.conversation = conversationId channel customer := by
  obtain ⟨-, rfl, rfl, -⟩ := Executions.findActive?_some h
  rfl

namespace Leg

/-- The messages that the nodes of a walk send, in order. -/
def sendings (leg : Leg) (w : World) : List Sending :=
  sendingsOf leg.recipient
    (dispatches leg.graph leg.recipient (stepsOfLimit w.stepLimit) leg.next ⟨leg.env, w.outside⟩)

/-- Each message of a walk is sent by another of the nodes whose work the walk begins, in the order
of the nodes. -/
theorem sublist_sendings (leg : Leg) (w : World) :
    ((leg.sendings w).map (·.node)).Sublist (leg.visited w) := by
  rw [visited, itinerary, ← map_node_dispatches]
  exact sublist_sendingsOf _ _

/-- A walk puts on record what the provider took, in the conversation with the customer of its
execution. -/
theorem recordsTaken (leg : Leg) (w : World)
    (hid : ∀ sending ∈ leg.sendings w, sending.hasPlainId = true) :
    RecordsTaken (some leg.held.conversation) (leg.sendings w) w.outside.chats
      (leg.walked w).outside.chats :=
  walkFrom_recordsTaken leg.graph leg.recipient _ leg.next leg.held.currentNode _ hid

end Leg

/-! ## Turns -/

namespace Task

variable {w : World} {t : Task}

/-- The messages that are sent in the next step of a task, in order. -/
def sendings (w : World) (t : Task) : List Sending :=
  match t.walk? w with
  | some leg => leg.sendings w
  | none => []

/-- The conversation in which a task may send messages. For a wake-up call it is that of the
execution which the call finds. -/
def conversation? (w : World) : Task → Option String
  | .inbound channel customer _ _ | .unmatched channel customer _ _
  | .start _ channel customer _ _ | .barred channel customer _ =>
    some (conversationId channel.id customer)
  | .departing departure _ _ => some departure.held.conversation
  | .holding held _ _ => some held.conversation
  | .called id _ => (w.executions.get? id).map (·.conversation)
  | .woken found _ _ => found.map (·.conversation)
  | .writing c => some c.held.conversation

/-- A task takes its walk in its conversation. -/
theorem conversation?_of_walk? {leg : Leg} (h : t.walk? w = some leg) :
    t.conversation? w = some leg.held.conversation := by
  cases walks_of_walk? h <;> rfl

/-- In a step nothing happens outside but the walk that it takes. -/
theorem Does.outside_walked {result : Except Failure (Task ⊕ Outcome) × World}
    (h : t.Does w result) :
    result.2.outside =
      match t.walk? w with
      | some leg => (leg.walked w).outside
      | none => w.outside := by
  cases h with
  | walks leg hwalk => rw [hwalk]
  | ends outcome hwalk | finds held credentials message hwalk
  | rearms held id version outcome ht hwalk | notes held credentials message ht hwalk => rw [hwalk]
  | goesOn next attempts hwalk
  | opens departure credentials flow channel customer message initial hwalk =>
    rw [hwalk]
    rfl
  | looksUp id version ht | writes c ht | yields c ht =>
    subst ht
    rfl

/-- **What a step puts on record** is what its nodes sent and the provider took. -/
theorem recordsTaken_step (t : Task) (w : World)
    (hid : ∀ sending ∈ t.sendings w, sending.hasPlainId = true) :
    RecordsTaken (t.conversation? w) (t.sendings w) w.outside.chats
      (t.step.exec w).2.outside.chats := by
  rw [(t.does w).outside_walked]
  rw [sendings] at hid ⊢
  cases hwalk : t.walk? w with
  | none => exact .refl _ _
  | some leg =>
    rw [hwalk] at hid
    rw [conversation?_of_walk? hwalk]
    exact leg.recordsTaken w hid

/-- A checkpoint that is drafted for an execution is written for its customer. -/
theorem conversation?_of_drafted {held : Execution} {Fails : FlowNode → Failure → Prop}
    {drafted : Except Failure Checkpoint × World} (h : Drafted held Fails w drafted) {next : Task}
    (hnext : drafted.1.map (fun c => (.inl (.writing c) : Task ⊕ Outcome)) = .ok (.inl next))
    (w' : World) : next.conversation? w' = some held.conversation := by
  cases h with
  | ready c outside hc =>
    cases hnext
    rw [← hc]
    rfl
  | nodeFailed | refused => cases hnext

/-- A task keeps to its conversation. -/
theorem conversation?_step {next : Task} (h : (t.step.exec w).1 = .ok (.inl next)) (w' : World) :
    next.conversation? w' = t.conversation? w := by
  cases t with
  | inbound channel customer message initial =>
    simp only [step, Work.exec_bind, Work.exec_get, Work.proceed_ok] at h
    cases hf : w.executions.findActive? customer channel.id with
    | some held =>
      rw [hf] at h
      cases h
      exact congrArg some (Executions.conversation_of_findActive? hf)
    | none =>
      rw [hf] at h
      cases h
      rfl
  | unmatched channel customer message initial =>
    simp only [step, Work.chooseFlow, Work.exec_bind, Work.exec_get, Work.proceed_ok,
      Work.exec_ofExcept] at h
    rcases hchosen : firstStarted? message.text (w.flows.offered channel.id) with
      failure | _ | flow
    · rw [hchosen] at h
      cases h
    · rw [hchosen] at h
      cases h
    · rw [hchosen] at h
      cases h
      rfl
  | start flow channel customer message initial =>
    simp only [step, Work.exec_bind] at h
    have hopened := Work.openFlow_opened w flow channel.id customer message initial
    generalize (Work.openFlow flow channel.id customer message initial).exec w = opened
      at hopened h
    cases hopened with
    | missing failure hf => cases h
    | created departure ho hg =>
      cases h
      obtain ⟨graph, trigger, -, -, -, hrow⟩ := ho
      exact congrArg (fun held : Execution => some held.conversation) hrow
    | barred ha =>
      cases h
      rfl
  | barred channel customer message =>
    simp only [step, Work.exec_bind, Work.exec_get, Work.proceed_ok] at h
    cases hf : w.executions.findActive? customer channel.id with
    | none =>
      rw [hf] at h
      cases h
    | some held =>
      rw [hf] at h
      dsimp only at h
      split at h
      · cases h
        exact congrArg some (Executions.conversation_of_findActive? hf)
      · cases h
  | departing departure credentials message =>
    rw [step, ← map_eq_pure_bind, Work.exec_map] at h
    exact conversation?_of_drafted (Work.setOut_drafted departure credentials message) h w'
  | holding held credentials message =>
    rw [step, ← map_eq_pure_bind, Work.exec_map] at h
    exact conversation?_of_drafted (Work.continueWith_drafted held credentials message) h w'
  | called id version =>
    cases h
    rfl
  | woken found id version =>
    cases found with
    | none => cases h
    | some held =>
    simp only [step, Work.exec_bind] at h
    have hwoken := Work.wake_woken held id version w
    generalize (Work.wake (some held) id version).exec w = woken at hwoken h
    cases hwoken with
    | dropped | early => cases h
    | due =>
      have hdrafted := Work.resumeDue_drafted (w := w) held
      generalize (Work.resumeDue held).exec w = drafted at hdrafted h
      refine conversation?_of_drafted hdrafted ?_ w'
      rcases drafted with ⟨_ | c, after⟩ <;> exact h
  | writing c =>
    rw [step, ← map_eq_pure_bind, Work.exec_map] at h
    generalize (Work.submit c).exec w = submitted at h
    rcases submitted with ⟨_ | outcome, after⟩ <;> cases h

end Task

/-- A step that a task takes in a world. -/
structure Task.Turn where
  task : Task
  before : World

namespace Task.Turn

/-- The world after a turn. -/
def after (turn : Turn) : World := (turn.task.step.exec turn.before).2

/-- The messages that are sent in a turn, in order. -/
def sendings (turn : Turn) : List Sending := turn.task.sendings turn.before

end Task.Turn

/-- The turns of a task, each in the world that it finds, until the task is over or there is no time
for another turn. -/
def Task.turns : Task → List World → List Turn
  | _, [] => []
  | t, w :: worlds =>
    ⟨t, w⟩ ::
      match (t.step.exec w).1 with
      | .ok (.inl next) => next.turns worlds
      | .ok (.inr _) | .error _ => []

/-- All turns of a task put on record what was sent in them and the provider took, in the
conversation of the task. -/
theorem Task.recordsTaken_turns (t : Task) (w : World) (worlds : List World) :
    ∀ turn ∈ t.turns (w :: worlds), (∀ sending ∈ turn.sendings, sending.hasPlainId = true) →
      RecordsTaken (t.conversation? w) turn.sendings turn.before.outside.chats
        turn.after.outside.chats := by
  induction worlds generalizing t w with
  | nil =>
    intro turn hturn hid
    have hfirst : turn = ⟨t, w⟩ := by
      rw [turns] at hturn
      rcases List.mem_cons.1 hturn with hfirst | hlater
      · exact hfirst
      · split at hlater <;> cases hlater
    subst hfirst
    exact t.recordsTaken_step w hid
  | cons next worlds ih =>
    intro turn hturn hid
    rw [turns] at hturn
    rcases List.mem_cons.1 hturn with rfl | hlater
    · exact t.recordsTaken_step w hid
    · split at hlater
      · next t' hstep =>
        rw [← conversation?_step hstep next]
        exact ih t' next turn hlater hid
      · cases hlater
      · cases hlater

/-! ## Invocations -/

/-- A wake-up call takes its walk with the execution that it finds. -/
theorem World.get?_of_planTimer {w w' : World} {id : String} {version : Option Int} {leg : Leg}
    (h : w.planTimer id version = (.walk leg, w')) : w.executions.get? id = some leg.held := by
  unfold planTimer at h
  cases hget : w.executions.get? id with
  | none =>
    rw [hget] at h
    cases h
  | some held =>
  rw [hget] at h
  dsimp only at h
  split at h
  · cases h
  split at h
  · cases h
  unfold Plan.inFlow at h
  cases hg : w.flows.load? held.flowId with
  | none =>
    rw [hg] at h
    cases h
  | some graph =>
    rw [hg] at h
    cases h
    rfl

namespace Invocation

variable {w : World}

/-- The conversation in which an invocation may send messages. -/
def conversation? (w : World) : Invocation → Option String
  | .inbound channel customer _ _ | .start _ channel customer _ _ =>
    some (conversationId channel.id customer)
  | .timer id _ => (w.executions.get? id).map (·.conversation)

theorem conversation?_ofInvocation (call : Invocation) (w : World) :
    (Task.ofInvocation call).conversation? w = call.conversation? w := by
  cases call <;> rfl

/-- The messages that an invocation sends, in order. -/
def sendings (w : World) (call : Invocation) : List Sending :=
  match Plan.leg? (call.plan w) with
  | some (leg, w') => leg.sendings w'
  | none => []

theorem sendings_of_plan {call : Invocation} {leg : Leg} {w' : World}
    (h : call.plan w = (.walk leg, w')) : call.sendings w = leg.sendings w' := by
  rw [sendings, h]
  rfl

/-- An invocation takes its walk in its conversation. -/
theorem conversation?_of_plan {call : Invocation} {leg : Leg} {w' : World}
    (h : call.plan w = (.walk leg, w')) :
    call.conversation? w = some leg.held.conversation := by
  have hbrings : ∀ {message : InboundMessage} {held : Execution}, call.Brings message held →
      call.conversation? w = some held.conversation := by
    intro message held hb
    cases call with
    | inbound | start =>
      obtain ⟨-, rfl, hchannel⟩ := hb
      exact congrArg (fun id => some (conversationId id held.customerId)) hchannel.symm
    | timer => exact absurd hb id
  cases setsOut h with
  | reply credentials attempts ha hheld hb | stranded credentials attempts ha hheld hb
  | restart credentials attempts ha hheld hb => exact hbrings hb
  | @departure departure flow channel customer message initial hc hg ht ha hnew =>
    have hown : departure.held.conversation = conversationId channel.id customer :=
      congrArg Execution.conversation hnew
    cases hc <;> exact congrArg some hown.symm
  | timer credentials hc =>
    subst hc
    exact congrArg (Option.map Execution.conversation) (World.get?_of_planTimer h)

/-- **An invocation puts on record** what its nodes sent and the provider took. -/
theorem recordsTaken_perform (call : Invocation) (w : World)
    (hid : ∀ sending ∈ call.sendings w, sending.hasPlainId = true) :
    RecordsTaken (call.conversation? w) (call.sendings w) w.outside.chats
      (call.perform.exec w).2.outside.chats := by
  have hwalked : ∀ {leg : Leg} {w' : World}, call.plan w = (.walk leg, w') →
      SetsOut w call leg w' →
      RecordsTaken (call.conversation? w) (call.sendings w) w.outside.chats
        (leg.walked w').outside.chats := by
    intro leg w' hplan hl
    rw [sendings_of_plan hplan] at hid ⊢
    rw [conversation?_of_plan hplan, ← hl.outside_eq]
    exact leg.recordsTaken w' hid
  have hmakes := call.makes w
  generalize call.perform.exec w = made at hmakes ⊢
  cases hmakes with
  | nothing result attempts timers ha hleg | note held message attempts ha hheld hb hw hleg =>
    rw [sendings, hleg]
    exact .refl _ _
  | failure leg w' failure hplan hl hp => exact hwalked hplan hl
  | walk leg w' patch hplan hl hp => exact hwalked hplan hl

/-- **What is on record is what was delivered.** Whatever an invocation comes to, it adds to one
conversation the messages that its nodes sent and the provider took, in the order in which they were
sent, and no others, and leaves all other conversations as they were. That holds of an invocation
that goes through without interruption, and of each turn of one between whose turns the world
changes in any way, so that its checkpoint may be too late. -/
theorem records_taken (call : Invocation) :
    (∀ w : World, (∀ sending ∈ call.sendings w, sending.hasPlainId = true) →
      RecordsTaken (call.conversation? w) (call.sendings w) w.outside.chats
        (call.perform.exec w).2.outside.chats) ∧
    ∀ (w : World) (worlds : List World),
      ∀ turn ∈ (Task.ofInvocation call).turns (w :: worlds),
        (∀ sending ∈ turn.sendings, sending.hasPlainId = true) →
        RecordsTaken (call.conversation? w) turn.sendings turn.before.outside.chats
          turn.after.outside.chats := by
  refine ⟨call.recordsTaken_perform, fun w worlds turn hturn hid => ?_⟩
  rw [← call.conversation?_ofInvocation w]
  exact (Task.ofInvocation call).recordsTaken_turns w worlds turn hturn hid

end Invocation

/-- A flow that greets the customer with a text and a sticker. -/
def wavingGraph : FlowGraph where
  nodes := [⟨"t", "trigger", .null⟩, ⟨"m", "sendText", .object [("message", .text "Hello")]⟩,
    ⟨"s", "sendSticker", .object [("sticker_url", .text "u")]⟩]
  edges := [⟨"t", "m", none, 0⟩, ⟨"m", "s", none, 1⟩]

/-- A world that offers the flow, in which the first message will be lost on the way. -/
def wavingWorld : World :=
  (World.offering ⟨"f", some "c", .anyMessage, 0, true, true⟩ wavingGraph).withAnswers
    [.disconnected "ConnectError" "down"]

/-- The execution with which the flow begins. -/
def wavingDeparture : Departure where
  graph := wavingGraph
  trigger := ⟨"t", "trigger", .null⟩
  held := wavingWorld.executions.newRow "f" "x" (some "c") (some "t") greetingMessage.observed

/-- The world in which its walk is taken. -/
def wavingStart : World := wavingWorld.withRow wavingDeparture.held

/-- The walk. -/
def wavingLeg : Leg := .ofDeparture wavingDeparture ⟨some "token", some "1"⟩ greetingMessage

/-- The turn in which it is taken. -/
def wavingTurn : Task.Turn :=
  ⟨.departing wavingDeparture ⟨some "token", some "1"⟩ greetingMessage, wavingStart⟩

theorem load?_waving : wavingWorld.flows.load? "f" = some wavingGraph := by cbv

theorem plan_waving : greetingCall.plan wavingWorld = (.walk wavingLeg, wavingStart) := by
  simp only [greetingCall, Invocation.plan, World.planStart, load?_waving]
  rfl

theorem hasPlainId_waving :
    ∀ sending ∈ wavingLeg.sendings wavingStart, sending.hasPlainId = true := by decide +kernel

/-- The turns of the start, if the execution is gone when the walk is to be written. -/
theorem turns_waving :
    ∃ c, (Task.ofInvocation greetingCall).turns [wavingWorld, wavingStart, wavingWorld] =
        [⟨.ofInvocation greetingCall, wavingWorld⟩, wavingTurn, ⟨.writing c, wavingWorld⟩] ∧
      ((Task.writing c).step.exec wavingWorld).1 =
        .ok (.inr ⟨.conflict, some c.held.id, none⟩) := by
  have hfirst : ((Task.ofInvocation greetingCall).step.exec wavingWorld).1 =
      .ok (.inl wavingTurn.task) := by
    simp only [greetingCall, Task.ofInvocation, Task.step, Work.exec_bind, Work.exec_openFlow,
      load?_waving]
    rfl
  have hsome : (wavingLeg.patch? wavingStart).toOption.isSome = true := by decide +kernel
  obtain ⟨patch, hpatch⟩ := Option.isSome_iff_exists.1 hsome
  have hsecond : (wavingTurn.task.step.exec wavingStart).1 =
      .ok (.inl (.writing (wavingLeg.checkpoint wavingStart patch))) := by
    have hleg : Leg.ofDeparture wavingDeparture ⟨some "token", some "1"⟩ greetingMessage =
        wavingLeg := rfl
    rw [wavingTurn, Task.step, ← map_eq_pure_bind, Work.exec_map, Work.setOut_eq_draft, hleg,
      Leg.exec_draft, toOption_eq_some_iff.1 hpatch]
    rfl
  have hthird : ((Task.writing (wavingLeg.checkpoint wavingStart patch)).step.exec wavingWorld).1 =
      .ok (.inr ⟨.conflict, some wavingDeparture.held.id, none⟩) := by
    rw [Task.step, ← map_eq_pure_bind, Work.exec_map, Work.exec_submit, Executions.update?_eq]
    rfl
  refine ⟨wavingLeg.checkpoint wavingStart patch, ?_, hthird⟩
  rw [Task.turns, hfirst]
  dsimp only
  rw [Task.turns, hsecond]
  dsimp only
  rw [Task.turns, hthird]
  rfl

/-- Of a text that was lost and a sticker that was taken, the sticker is on record. -/
theorem RecordsTaken.of_waving {before after : Chats} (hempty : before.messages = [])
    (h : RecordsTaken (some "c:x") (wavingLeg.sendings wavingStart) before after) :
    ∃ record, after.messages = [record] ∧ record.conversation = "c:x" ∧
      record.type = some "sticker" := by
  have htaken : ((wavingLeg.sendings wavingStart).filter Sending.taken).map
      (·.node.messageType?) = [some "sticker"] := by decide +kernel
  obtain ⟨sticker, hsticker, htype⟩ := List.map_eq_singleton_iff.1 htaken
  obtain ⟨added, hadds, htells⟩ := h
  rw [hsticker] at htells
  cases htells with
  | @cons _ record _ _ htells hnil =>
    cases hnil
    obtain ⟨type, hknown, hrecorded⟩ := htells.type
    refine ⟨record, ?_, Option.some.inj (hadds.own record List.mem_cons_self), ?_⟩
    · rw [hadds.messages, hempty, List.nil_append]
    · rw [hrecorded, ← hknown, htype]

/-- The start puts the sticker on record, and so does one that comes to a conflict afterwards. -/
theorem Invocation.records_taken_waving :
    (∃ record, (greetingCall.perform.exec wavingWorld).2.outside.chats.messages = [record] ∧
      record.conversation = "c:x" ∧ record.type = some "sticker") ∧
    ∃ c, (Task.ofInvocation greetingCall).turns [wavingWorld, wavingStart, wavingWorld] =
        [⟨.ofInvocation greetingCall, wavingWorld⟩, wavingTurn, ⟨.writing c, wavingWorld⟩] ∧
      ((Task.writing c).step.exec wavingWorld).1 =
        .ok (.inr ⟨.conflict, some c.held.id, none⟩) ∧
      ∃ record, wavingTurn.after.outside.chats.messages = [record] ∧
        record.conversation = "c:x" ∧ record.type = some "sticker" := by
  obtain ⟨halone, hturns⟩ := Invocation.records_taken greetingCall
  obtain ⟨c, hlist, hconflict⟩ := turns_waving
  have hconversation : greetingCall.conversation? wavingWorld = some "c:x" := by decide
  refine ⟨?_, c, hlist, hconflict, ?_⟩
  · have hrecorded := halone wavingWorld
    rw [Invocation.sendings_of_plan plan_waving, hconversation] at hrecorded
    exact (hrecorded hasPlainId_waving).of_waving rfl
  · have hturn : wavingTurn ∈
        (Task.ofInvocation greetingCall).turns [wavingWorld, wavingStart, wavingWorld] := by
      rw [hlist]
      exact List.mem_cons_of_mem _ List.mem_cons_self
    have hsent : wavingTurn.sendings = wavingLeg.sendings wavingStart := rfl
    have hrecorded := hturns wavingWorld _ _ hturn (hsent ▸ hasPlainId_waving)
    rw [hconversation, hsent] at hrecorded
    exact hrecorded.of_waving rfl

end ChatFlow

import ChatFlow.Proofs.Engine.Exclusive
import ChatFlow.Proofs.Engine.Shapes

/-!
# Waiting for a reply

For what an execution waits stands in one field: what a node expects of the reply, or that it waits
for a timer. As long as the two differ, an execution that waits for a reply is gone on with by the
next message and by nothing else (`Machine.resumed_by_reply`): no wake-up call is asked for it, and
those that come are dropped.

What a node expects may be any text, though, and it is not read for anything else. A node that
expects a `timer` is taken for a delay, and the reply to it is lost (`Machine.lost_reply`).

That no call is asked for follows from `World.CallsTimed`: each call was asked for an execution that
waited for a timer in the version of the call, and an execution has one state in each version.
-/

namespace ChatFlow

/-! ## Wake-up calls -/

/-- Whether every wake-up call was asked for an execution that waited for a timer in the version of
the call. -/
def World.CallsTimed (w : World) : Prop :=
  ∀ call ∈ w.timers.wakeups, ∃ held, w.executions.Knows held ∧ held.waitsForTimer = true ∧
    held.id = call.execution ∧ held.version = call.version

theorem Timers.mem_wakeups_ask {timers : Timers} {execution : Execution} {delay : Option Span}
    {call : Wakeup} (h : call ∈ (timers.ask execution delay).wakeups) :
    call ∈ timers.wakeups ∨ call.execution = execution.id ∧ call.version = execution.version := by
  unfold ask at h
  split at h
  · rcases List.mem_append.1 h with hold | hnew
    · exact .inl hold
    · rw [List.mem_singleton.1 hnew]
      exact .inr ⟨rfl, rfl⟩
  · exact .inl h

namespace World.CallsTimed

variable {w w' : World}

/-- A call for the present version of a row tells that the row waits for a timer. -/
theorem waitsForTimer (h : w.CallsTimed) (hs : w.executions.Sound) {row : Execution}
    (hrow : row ∈ w.executions.rows) {call : Wakeup} (hcall : call ∈ w.timers.wakeups)
    (hid : call.execution = row.id) (hv : call.version = row.version) :
    row.waitsForTimer = true := by
  obtain ⟨held, ⟨here, hhere, hp⟩, hw, hheld, hversion⟩ := h call hcall
  have hsame : here = row := hs.eq_of_id hhere hrow (hp.id.symm.trans (hheld.trans hid))
  subst hsame
  rw [← hp.eq_of_version (hversion.trans hv)]
  exact hw

/-- Calls stay timed while what is known stays known and no call is added. -/
theorem mono (h : w.CallsTimed)
    (hk : ∀ held, w.executions.Knows held → w'.executions.Knows held)
    (hcalls : ∀ call ∈ w'.timers.wakeups, call ∈ w.timers.wakeups) : w'.CallsTimed := by
  intro call hcall
  obtain ⟨held, hheld, hrest⟩ := h call (hcalls call hcall)
  exact ⟨held, hk held hheld, hrest⟩

/-- Calls stay timed if one is asked for an execution that is known and waits for a timer. -/
theorem ask (h : w.CallsTimed)
    (hk : ∀ held, w.executions.Knows held → w'.executions.Knows held) {asker : Execution}
    {delay : Option Span} (hasker : w'.executions.Knows asker) (hw : asker.waitsForTimer = true)
    (htimers : w'.timers = w.timers.ask asker delay) : w'.CallsTimed := by
  intro call hcall
  rw [htimers] at hcall
  rcases Timers.mem_wakeups_ask hcall with hold | ⟨hid, hv⟩
  · obtain ⟨held, hheld, hrest⟩ := h call hold
    exact ⟨held, hk held hheld, hrest⟩
  · exact ⟨asker, hasker, hw, hid.symm, hv.symm⟩

end World.CallsTimed

namespace Machine

variable {m : Machine} {t : Task} {result : Except Failure (Task ⊕ Outcome) × World}

/-- A step asks for no call but for an execution that waits for a timer. -/
theorem Good.callsTimed (hg : m.Good) (ht : t ∈ m.tasks) (hd : t.Does m.world result)
    (h : m.world.CallsTimed) : result.2.CallsTimed := by
  have hknows : ∀ held, m.world.executions.Knows held → result.2.executions.Knows held :=
    fun _ => hd.knows
  cases hd with
  | ends | goesOn | finds | looksUp | opens | notes | walks | yields =>
    exact h.mono hknows fun _ hcall => hcall
  | rearms held id version outcome htask hwalk hw =>
    subst htask
    exact h.ask hknows (hg.known _ ht held rfl) hw rfl
  | writes c htask hany =>
    subst htask
    have hheld := hg.mem_of_isHeld ht hany
    by_cases hw : (c.patch.apply c.held).waitsForTimer = true
    · have hafter : c.patch.apply c.held ∈
          (m.world.withWritten c.held c.patch c.entries).executions.rows :=
        (hg.sound.mem_rewrite_iff hheld).2 (.inl rfl)
      exact h.ask hknows (.of_mem hafter) hw (if_pos hw)
    · exact h.mono hknows fun call hcall => by rwa [World.withWritten, if_neg hw] at hcall

/-! ## Runs -/

/-- Whether a machine comes about in a world without executions and wake-up calls, while nobody
changes the graphs of the flows or asks for other calls. -/
def ComesUndisturbed (m : Machine) (w : World) : Prop :=
  w.executions.rows = [] ∧ w.timers.wakeups = [] ∧ ∃ moves, m = (start w).run moves ∧
    (start w).Throughout (fun m move => move.KeepsGraphs m ∧ move.KeepsCalls m) moves

namespace ComesUndisturbed

variable {w : World}

theorem comesFrom (h : m.ComesUndisturbed w) : m.ComesFrom w := by
  obtain ⟨-, -, moves, hm, -⟩ := h
  exact ⟨moves, hm⟩

theorem good (h : m.ComesUndisturbed w) : m.Good :=
  h.comesFrom.good (.of_rows_nil h.1)

theorem isShaped (h : m.ComesUndisturbed w) : m.IsShaped := by
  obtain ⟨hw, -, moves, rfl, hmoves⟩ := h
  exact isShaped_run hw (hmoves.imp fun _ _ => And.left)

/-- At all times the wake-up calls are timed. -/
theorem callsTimed (h : m.ComesUndisturbed w) : m.world.CallsTimed := by
  obtain ⟨hw, hcalls, moves, rfl, hmoves⟩ := h
  have hstart : (start w).world.CallsTimed := by
    intro call hcall
    rw [show (start w).world.timers.wakeups = [] from hcalls] at hcall
    cases hcall
  refine (Good.induct (P := fun m => m.world.CallsTimed) (good_start (.of_rows_nil hw)) hstart
    hmoves (fun _ _ h => h) ?_ ?_).2
  · exact fun m world hmove h => h.mono (fun _ hk => hk) (hmove.2 world rfl)
  · exact fun m i t result hg ht hd h => hg.callsTimed ht hd h

end ComesUndisturbed

end Machine

/-! ## Replies -/

/-- An execution that waits at a node that asks for a reply waits for what this node expects. -/
theorem Execution.Shaped.asks {flows : Flows} {row : Execution} {graph : FlowGraph}
    {node : FlowNode} (h : row.Shaped flows) (hs : row.status = .waiting)
    (hg : flows.load? row.flowId = some graph) (hn : row.currentNode.bind graph.node? = some node)
    (hask : node.type = "waitForReply") :
    ∃ expected variableName, node.configured? = some (.waitForReply expected variableName) ∧
      row.waitingFor = some expected := by
  have hfound : ∀ {found : FlowNode} {other : FlowGraph}, flows.load? row.flowId = some other →
      other.node? found.id = some found → row.currentNode = some found.id → found = node := by
    intro found other hload hnode hcurrent
    obtain rfl := Option.some.inj (hload.symm.trans hg)
    rw [hcurrent, Option.bind_some, hnode] at hn
    exact Option.some.inj hn
  cases h with
  | running _ _ _ _ _ status => cases hs.symm.trans status
  | completed _ _ _ _ _ _ status => cases hs.symm.trans status
  | asking other found reason variableName hload hnode ht hc hcurrent status version waitingFor =>
    obtain rfl := hfound hload hnode hcurrent
    exact ⟨reason, variableName, hc, waitingFor⟩
  | parked other found due hload hnode ht hcurrent =>
    obtain rfl := hfound hload hnode hcurrent
    rw [hask] at ht
    exact absurd ht (by decide)

namespace World

variable {w : World} {row : Execution} {graph : FlowGraph} {node : FlowNode} {expected : String}
  {variableName : Option String}

/-- A message to an execution that waits for a reply is planned to go on with it. -/
theorem plan_reply (channel : ChannelAccess) (message : InboundMessage) (initial : Object)
    (hf : w.executions.findActive? row.customerId channel.id = some row)
    (hs : row.status = .waiting) (hno : ¬ row.waitsForTimer = true)
    (hg : w.flows.load? row.flowId = some graph)
    (hn : row.currentNode.bind graph.node? = some node)
    (hc : node.configured? = some (.waitForReply expected variableName)) :
    (Invocation.inbound channel row.customerId message initial).plan w =
      (.walk (.ofReply graph row channel.credentials message node variableName), w) := by
  have hreply : node.replyVariable? = .ok variableName := FlowNode.replyVariable?_of_configured hc
  rw [Invocation.plan, planInbound, hf]
  simp only [Plan.ofMessage_of_load?_some channel.credentials message hno hg, if_pos hs,
    Plan.ofReply, hn, hreply]

/-- A message to an execution that waits for a timer is planned to be noted. -/
theorem plan_note (channel : ChannelAccess) (message : InboundMessage) (initial : Object)
    (hf : w.executions.findActive? row.customerId channel.id = some row)
    (hw : row.waitsForTimer = true) :
    (Invocation.inbound channel row.customerId message initial).plan w =
      (.note row message, w) := by
  rw [Invocation.plan, planInbound, hf]
  simp only [Plan.ofMessage, if_pos hw]

/-- A wake-up call for an execution that does not wait for a timer is dropped. -/
theorem exec_timer_of_not_waitsForTimer (hget : w.executions.get? row.id = some row)
    (hno : ¬ row.waitsForTimer = true) (version : Option Int) :
    (Invocation.timer row.id version).perform.exec w =
      (.ok ⟨.ignored, some row.id, some row.status⟩, w) := by
  have hno' : row.waitsForTimer = false := Bool.not_eq_true _ ▸ hno
  rw [Invocation.perform_eq_plan, Invocation.plan, planTimer, hget]
  simp only [hno', Bool.not_false, Bool.true_or, if_true]
  rfl

end World

namespace Machine

/-- Whether an execution that waits at a node is left by the next reply and by nothing else. -/
structure AwaitsReply (m : Machine) (row : Execution) (graph : FlowGraph) (node : FlowNode)
    (variableName : Option String) : Prop where
  /-- The next message of the customer on the channel goes on with the execution: it binds the reply
  and takes the first edge out of the node. Unless the walk fails, the outcome is that the execution
  was resumed. -/
  resumes : ∀ channelId credentials message initial, row.channelId = some channelId →
    let call := Invocation.inbound ⟨some channelId, credentials⟩ row.customerId message initial
    let leg := Leg.ofReply graph row credentials message node variableName
    call.plan m.world = (.walk leg, m.world) ∧
    call.perform.exec m.world =
      match leg.patch? m.world with
      | .error failure => (.error failure, leg.walked m.world)
      | .ok patch =>
        (.ok ⟨.resumed, some row.id, some (patch.apply row).status⟩,
          (leg.walked m.world).withWritten row patch (leg.entries m.world))
  /-- No wake-up call has been asked for it. -/
  uncalled : ∀ call ∈ m.world.timers.wakeups,
    ¬ (call.execution = row.id ∧ call.version = row.version)
  /-- A wake-up call for it is dropped and changes nothing. -/
  unmoved : ∀ version, (Invocation.timer row.id version).perform.exec m.world =
    (.ok ⟨.ignored, some row.id, some .waiting⟩, m.world)
  /-- A wake-up call that is under way and goes on with the execution has read it in an earlier
  version. -/
  outrun : ∀ found id version leg, .woken found id version ∈ m.tasks →
    (Task.woken found id version).walk? m.world = some leg → leg.held.id = row.id →
    leg.held.version < row.version

/-- A message finds the execution of its customer that waits on its channel. -/
theorem ComesUndisturbed.findActive?_eq {m : Machine} {w : World} (h : m.ComesUndisturbed w)
    {row : Execution} (hrow : row ∈ m.world.executions.rows) (hs : row.status = .waiting)
    {channelId : String} (hch : row.channelId = some channelId) :
    m.world.executions.findActive? row.customerId (some channelId) = some row := by
  have hactive : Executions.isActiveOf row.customerId (some channelId) row = true := by
    simp [Executions.isActiveOf, hch, hs, ExecutionStatus.isActive]
  exact (h.comesFrom.isExclusive h.1).findActive?_eq hrow hactive

/-- An execution that waits for a reply, and not for a timer, awaits this reply. -/
theorem ComesUndisturbed.awaitsReply {m : Machine} {w : World} (h : m.ComesUndisturbed w)
    {row : Execution} {graph : FlowGraph} {node : FlowNode} {expected : String}
    {variableName : Option String} (hrow : row ∈ m.world.executions.rows)
    (hs : row.status = .waiting) (hno : ¬ row.waitsForTimer = true)
    (hg : m.world.flows.load? row.flowId = some graph)
    (hn : row.currentNode.bind graph.node? = some node)
    (hc : node.configured? = some (.waitForReply expected variableName)) :
    m.AwaitsReply row graph node variableName := by
  have hgood := h.good
  have hget : m.world.executions.get? row.id = some row :=
    hgood.sound.get?_eq_some_iff.2 ⟨hrow, rfl⟩
  constructor
  · intro channelId credentials message initial hch
    have hf := h.findActive?_eq hrow hs hch
    have hplan := World.plan_reply ⟨some channelId, credentials⟩ message initial hf hs hno hg hn hc
    refine ⟨hplan, ?_⟩
    rw [Invocation.perform_eq_plan, hplan]
    exact Plan.exec_walk hrow
  · rintro call hcall ⟨hid, hv⟩
    exact hno (h.callsTimed.waitsForTimer hgood.sound hrow hcall hid hv)
  · intro version
    rw [← hs]
    exact World.exec_timer_of_not_waitsForTimer hget hno version
  · intro found id version leg ht hwalk hid
    rcases hgood.eq_or_version_lt ht (Task.held?_of_walk? hwalk) hrow hid with rfl | hlt
    · cases Task.walks_of_walk? hwalk with
      | woken held id version graph hg hw => exact absurd hw hno
    · exact hlt

/-- **A reply wait is left by the next reply and by nothing else, unless it is taken for a timer.**
Take any number of invocations that take their steps in any order, beginning without executions and
wake-up calls, and let nobody else change the graphs of the flows or ask for calls. Whenever an
execution waits at a node that asks for a reply, this node can be read, and the execution counts as
waiting for a timer exactly if the node expects a `timer`. If it expects anything else, the
execution awaits this reply; and if it expects that, the next message of the customer on the channel
is only noted. -/
theorem resumed_by_reply {m : Machine} {w : World} (h : m.ComesUndisturbed w) {row : Execution}
    {graph : FlowGraph} {node : FlowNode} (hrow : row ∈ m.world.executions.rows)
    (hs : row.status = .waiting) (hg : m.world.flows.load? row.flowId = some graph)
    (hn : row.currentNode.bind graph.node? = some node) (hask : node.type = "waitForReply") :
    ∃ expected variableName,
      node.configured? = some (.waitForReply expected variableName) ∧
      (row.waitsForTimer = true ↔ expected = timerReason) ∧
      (expected ≠ timerReason → m.AwaitsReply row graph node variableName) ∧
      (expected = timerReason → ∀ channelId credentials message initial,
        row.channelId = some channelId →
          (Invocation.inbound ⟨some channelId, credentials⟩ row.customerId message initial).plan
            m.world = (.note row message, m.world)) := by
  obtain ⟨expected, variableName, hc, hwaiting⟩ := (h.isShaped.rows row hrow).asks hs hg hn hask
  have hiff : row.waitsForTimer = true ↔ expected = timerReason := by
    rw [Execution.waitsForTimer_iff, hwaiting, Option.some.injEq]
    exact and_iff_right hs
  refine ⟨expected, variableName, hc, hiff, fun hother => ?_, fun htimer => ?_⟩
  · exact h.awaitsReply hrow hs (mt hiff.1 hother) hg hn hc
  · intro channelId credentials message initial hch
    exact World.plan_note ⟨some channelId, credentials⟩ message initial
      (h.findActive?_eq hrow hs hch) (hiff.2 htimer)

/-! ## A question in a flow -/

/-- A question of which a kind of answer is expected. -/
def questionNode (expected : String) : FlowNode where
  id := "q"
  type := "waitForReply"
  config := .object [("expectedType", .text expected), ("variableName", .text "answer")]

/-- A flow with this question. -/
def questionGraph (expected : String) : FlowGraph where
  nodes := [⟨"t", "trigger", .object []⟩, questionNode expected, ⟨"e", "end", .object []⟩]
  edges := [⟨"t", "q", none, 0⟩, ⟨"q", "e", none, 0⟩]

/-- A world that offers this flow. -/
def questionWorld (expected : String) : World :=
  .offering ⟨"f", some "c", .anyMessage, 0, true, true⟩ (questionGraph expected)

/-- A text from a customer. -/
def texting (text : String) : Invocation :=
  .inbound ⟨some "c", ⟨none, none⟩⟩ "x" ⟨.text "text", .text text, .null, .null, .null, .null⟩ []

/-- One message gets the question asked. -/
def questionMoves : List Move :=
  [.invoke (texting "quiz"), .turn 0, .turn 0, .turn 0, .turn 0, .turn 0]

/-- The question has been asked. -/
def questioned (expected : String) : Machine := (start (questionWorld expected)).run questionMoves

theorem questioned_comesUndisturbed (expected : String) :
    (questioned expected).ComesUndisturbed (questionWorld expected) := by
  refine ⟨rfl, rfl, questionMoves, rfl, .of_forall fun m move hmove => ?_⟩
  have hno : ∀ world, move ≠ .change world := by
    rintro world rfl
    simp [questionMoves] at hmove
  exact ⟨fun world he => absurd he (hno world), fun world he => absurd he (hno world)⟩

/-- The answer to a question of which a text is expected is awaited. -/
theorem resumed_by_reply_text :
    ∃ row, (questioned "text").world.executions.rows = [row] ∧ row.waitingFor = some "text" ∧
      (questioned "text").AwaitsReply row (questionGraph "text") (questionNode "text")
        (some "answer") := by
  have hasked : ((questioned "text").world.executions.rows.map fun row =>
      (row.status, row.flowId, row.currentNode, row.waitingFor),
      (questioned "text").world.flows.load? "f") =
        ([(.waiting, "f", some "q", some "text")], some (questionGraph "text")) := by cbv
  obtain ⟨hrows, hload⟩ := Prod.mk.inj hasked
  obtain ⟨row, hrow, hfields⟩ := List.map_eq_singleton_iff.1 hrows
  simp only [Prod.mk.injEq] at hfields
  obtain ⟨hs, hflow, hcurrent, hwaiting⟩ := hfields
  have hg : (questioned "text").world.flows.load? row.flowId = some (questionGraph "text") :=
    hflow ▸ hload
  have hn : row.currentNode.bind (questionGraph "text").node? = some (questionNode "text") := by
    rw [hcurrent]
    rfl
  obtain ⟨expected, variableName, hc, hiff, hawaits, -⟩ :=
    resumed_by_reply (questioned_comesUndisturbed "text") (hrow ▸ List.mem_singleton_self row) hs
      hg hn rfl
  have hconfig : (questionNode "text").configured? =
      some (.waitForReply "text" (some "answer")) := by cbv
  rw [hconfig] at hc
  cases hc
  exact ⟨row, hrow, hwaiting, hawaits (by decide)⟩

/-- **A question of which a timer is expected** may be published, but the execution that asks it is
taken for one at a delay: a wake-up call is asked for, the answer is ignored, and the call goes on
with the execution. -/
theorem lost_reply :
    (questionGraph "timer").defects = [] ∧
      (questioned "timer").world.executions.rows.map
        (fun row => (row.status, row.currentNode, row.version)) = [(.waiting, some "q", 2)] ∧
      (questioned "timer").world.timers.wakeups = [⟨"exec-1", 2, none⟩] ∧
      ((texting "42").perform.exec (questioned "timer").world).1 =
        .ok ⟨.ignored, some "exec-1", some .waiting⟩ ∧
      ((Invocation.timer "exec-1" (some 2)).perform.exec (questioned "timer").world).1 =
        .ok ⟨.resumed, some "exec-1", some .completed⟩ := by
  have hend : ((questioned "timer").world.executions.rows.map
      (fun row => (row.status, row.currentNode, row.version)),
      (questioned "timer").world.timers.wakeups,
      ((texting "42").perform.exec (questioned "timer").world).1,
      ((Invocation.timer "exec-1" (some 2)).perform.exec (questioned "timer").world).1) =
        ([(.waiting, some "q", 2)], [⟨"exec-1", 2, none⟩],
          .ok ⟨.ignored, some "exec-1", some .waiting⟩,
          .ok ⟨.resumed, some "exec-1", some .completed⟩) := by cbv
  simp only [Prod.mk.injEq] at hend
  exact ⟨by cbv, hend⟩

end Machine

end ChatFlow

import ChatFlow.Proofs.Engine.Walkable

/-!
# Why published flows fail

`FlowGraph.IsPublishable.fails_only` tells for which reasons an invocation can fail whose walk is of
a published flow, as long as the other services answer as they should: a node met a number, a date,
a place in a list or a text for a request with which its work cannot be done, or the moment at which
to go on after a delay cannot be told. A node that works on no such thing never fails
(`NodeConfig.act_ok_of_isSteady`).

The check of a flow rules out none of these reasons, and a message is enough to bring one about. A
time stamp of digits without a decimal value is taken for a number (`takeTimestamp_error`);
`stamped_fails` is a message that fails for it in a flow that may be published.
-/

namespace ChatFlow

/-! ## Nodes -/

/-- A time stamp of digits that have no decimal value makes the node fail that takes it. -/
theorem takeTimestamp_error {scene : Scene} {stamp : String} (variableName : String)
    (h : (scene.env.vars.get timestampVariable).toText = stamp) (hd : isDigits stamp = true)
    (hn : decimalNat? stamp = none) :
    (takeTimestamp variableName).run.run scene = (.error (.fault (.notDecimal stamp)), scene) := by
  have htime : timeOfStamp? stamp = .error (.notDecimal stamp) := by
    rw [timeOfStamp?, if_pos hd, hn]
  unfold takeTimestamp
  rw [Act.run_bind]
  show ((liftM (timeOfStamp? (scene.env.vars.get timestampVariable).toText) >>= _ :
    Act NodeResult)).run.run scene = _
  rw [h, htime]
  rfl

/-! ## Invocations -/

/-- A flow that takes the time of the message and ends. -/
def stampedGraph : FlowGraph where
  nodes := [⟨"t", "trigger", .null⟩, ⟨"s", "getMessageTimestamp", .null⟩, ⟨"e", "end", .null⟩]
  edges := [⟨"t", "s", none, 0⟩, ⟨"s", "e", none, 1⟩]

/-- A world that offers the flow. -/
def stampedWorld : World := .offering ⟨"f", some "c", .anyMessage, 0, true, true⟩ stampedGraph

/-- A message whose time stamp is a superscript. -/
def oddlyStamped : InboundMessage :=
  ⟨.text "text", .text "hi", .null, .null, .null, .text "²"⟩

theorem stampedWorld_load? : stampedWorld.flows.load? "f" = some stampedGraph := by cbv

end ChatFlow

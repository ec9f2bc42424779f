import ChatFlow.Flow.Graph
import ChatFlow.Node.Call
import ChatFlow.Node.Compute
import ChatFlow.Node.Control
import ChatFlow.Node.Customer
import ChatFlow.Node.Send

/-!
# The work of a node

`FlowNode.act` does what a node is configured to do. A node of a type that is not known does
nothing; a node whose configuration cannot be read fails.
-/

namespace ChatFlow

/-- Does what a node is configured to do. -/
def NodeConfig.act (recipient : Recipient) (id : String) : NodeConfig → Act NodeResult
  | .trigger | .markAsRead => return ⟨.leave none, []⟩
  | .send message => sendMessage recipient message
  | .waitForReply expected _ => return ⟨.wait expected none, []⟩
  | .condition rules defaultHandle => branch rules defaultHandle
  | .setVariable assignments => assignAll assignments
  | .apiCall call => callService call
  | .delay seconds => waitSeconds seconds
  | .loop plan => runLoop id plan
  | .finish kind => return ⟨.finish, [("end_type", .text kind)]⟩
  | .customerPhone variableName format =>
    Act.assign variableName (.text (ChatFlow.formatPhone format recipient.customerId))
  | .customerName variableName => takeName recipient variableName
  | .customerCountry variableName =>
    Act.assign variableName (.text (phoneCountry recipient.customerId))
  | .messageTimestamp variableName => takeTimestamp variableName
  | .formatPhone source variableName format =>
    computeInto variableName (computePhone source format)
  | .randomChoice choices variableName => chooseAtRandom choices variableName
  | .dateTime variableName operation format => do
    computeInto variableName (computeDate operation format (← Act.time))
  | .math variableName operation left right =>
    computeInto variableName (computeNumber operation left right)
  | .text variableName operation template =>
    computeInto variableName (computeText operation template)

/-- The notes of a node of an unknown type. -/
def unknownTypeNotes (type : String) : Object :=
  [("skipped", .text "unknown_node_type"), ("node_type", .text type)]

/-- Does the work of a node. -/
def FlowNode.act (recipient : Recipient) (node : FlowNode) : Act NodeResult :=
  match NodeType.ofName? node.type with
  | none => return ⟨.leave none, unknownTypeNotes node.type⟩
  | some type =>
    match type.configure node.config with
    | .ok config => config.act recipient node.id
    | .error report => throw (.config report)

end ChatFlow

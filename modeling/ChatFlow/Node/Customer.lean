import ChatFlow.Config.Node
import ChatFlow.Node.Scene

/-!
# What is known of the customer

Nodes that put the customer's phone number, name and country, and the time of the last message, into
variables.
-/

namespace ChatFlow

/-- The variable that holds the name that the provider knows the customer by. -/
def nameVariable : String := "customer_name"

/-- The variable that holds the time stamp of the last message. -/
def timestampVariable : String := "message_timestamp"

/-- Takes the customer's name, or the customer's id if no name is known. A name that is an object is
from then on at both places. -/
def takeName (recipient : Recipient) (variableName : String) : Act NodeResult := do
  let name := (← Act.vars).get nameVariable
  if name.isTruthy then
    Act.changeEnv (·.writeSame variableName name [.field nameVariable])
    return ⟨.leave none, [(variableName, name)]⟩
  else Act.assign variableName (.text recipient.customerId)

/-- The time of a time stamp, if the text is one. -/
def timeOfStamp? (stamp : String) : Except Fault (Option ZonedMoment) :=
  if isDigits stamp then
    match decimalNat? stamp with
    | none => .error (.notDecimal stamp)
    | some seconds => return some ⟨← momentOfTimestamp seconds, some 0⟩
  else .ok none

/-- Takes the time of the last message, or the present time if the message does not tell. -/
def takeTimestamp (variableName : String) : Act NodeResult := do
  let stamp := ((← Act.vars).get timestampVariable).toText
  let time ← match ← timeOfStamp? stamp with
    | some time => pure time
    | none => Act.time
  Act.assign variableName (.text time.isoText)

end ChatFlow

import ChatFlow.Flow.Validation
import ChatFlow.Http.Exchange

/-!
# Failures

Why the work of the engine fails, and the text of each reason.
-/

namespace ChatFlow

/-- Why work fails. -/
inductive Failure where
  /-- A computation with values. -/
  | fault (fault : Fault)
  /-- The configuration of a node cannot be read. -/
  | config (report : ConfigReport)
  /-- A quotient of whole numbers is beyond the range of floats. -/
  | quotientTooLarge
  /-- A request that may not fail. -/
  | call (error : CallError)
  /-- The provider's answer names its messages by an object. -/
  | messagesByName
  /-- The provider's answer has something else than an object for a message. -/
  | messageOfKind (kind : String)
  /-- The provider's answer has something else than a list of messages. -/
  | messagesOfKind (kind : String)
  /-- A loop asks for an item that the list does not have. -/
  | itemOutOfRange
  /-- A message without text in the place of a text. -/
  | textOfKind (kind : String)
  /-- What the provider delivered does not have the form that it should have. -/
  | malformedDelivery
  /-- A node failed. -/
  | node (id type : String) (cause : Failure)
  | unknownFlow (id : String)
  | noTrigger (flow : String)
  /-- A flow may not be published. -/
  | unpublishable (flow : String) (defects : List FlowDefect)
  /-- Another writer changed the execution after it was read. -/
  | stale (execution : String) (version : Int)
  deriving Repr

namespace Failure

/-- The text of a failure. -/
def message : Failure → String
  | .fault reason => reason.message
  | .config report => report.headline
  | .quotientTooLarge => "integer division result too large for a float"
  | .call error => error.message
  | .messagesByName => "0"
  | .messageOfKind kind => "'" ++ kind ++ "' object has no attribute 'get'"
  | .messagesOfKind kind => "'" ++ kind ++ "' object is not subscriptable"
  | .itemOutOfRange => "list index out of range"
  | .textOfKind kind => "'" ++ kind ++ "' object has no attribute 'strip'"
  | .malformedDelivery => "malformed delivery"
  | .node id type cause => "Node " ++ id ++ " (" ++ type ++ ") failed: " ++ cause.message
  | .unknownFlow id => "Flow " ++ id ++ " not found"
  | .noTrigger flow => "Flow " ++ flow ++ " has no trigger node"
  | .unpublishable flow defects =>
    "Flow " ++ flow ++ " is not publishable: " ++ "; ".intercalate (defects.map (·.message))
  | .stale execution version =>
    "Execution " ++ execution ++ " is no longer at version " ++ integerText version

end Failure

/-- The name of the kind of a value in messages. -/
def Value.kindName : Value → String
  | .null => "NoneType"
  | .bool _ => "bool"
  | .int _ => "int"
  | .float _ => "float"
  | .text _ => "str"
  | .list _ => "list"
  | .object _ => "dict"

end ChatFlow

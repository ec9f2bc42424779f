import ChatFlow.Web.Webhook

/-!
# The routes of the web interface

Which requests the service answers. A path that is no route, but is one without the slashes at its
end, is redirected.
-/

namespace ChatFlow

/-- What a path names. -/
inductive Route where
  | root
  | health
  | webhook (channel : String)
  | publish (flow : String)
  | executionLogs (execution : String)
  | messages (channel customer : String)
  deriving DecidableEq, Repr

/-- The route of the parts of a path after its first slash. -/
def Route.ofParts? : List String → Option Route
  | [""] => some .root
  | ["health"] => some .health
  | ["webhook", channel] => some (.webhook channel)
  | ["api", "flows", flow, "publish"] => some (.publish flow)
  | ["api", "executions", execution, "logs"] => some (.executionLogs execution)
  | ["api", "conversations", channel, customer, "messages"] => some (.messages channel customer)
  | _ => none

/-- The route of a path. Only the root has an empty part. -/
def Route.ofPath? (path : String) : Option Route :=
  match splitText "/" path with
  | "" :: parts => if parts != [""] && parts.contains "" then none else Route.ofParts? parts
  | _ => none

/-- A path without the slashes at its end. -/
def withoutEndSlashes (path : String) : String :=
  String.ofList (dropEndWhile (· == '/') path.toList)

/-- Publishes a flow, or withdraws it. -/
def answerPublish (flow : String) (published : Bool) : Work Reply := do
  match (← get).flows.publish flow published with
  | .ok (none, _) => return .refused 404 (.text "Flow not found")
  | .ok (some after, flows) =>
    modify fun world => { world with flows }
    let status := if after.isPublished then "published" else "unpublished"
    return .ok [("status", .text status), ("flow_id", .text after.id)]
  | .error (.unpublishable _ defects) =>
    return .refused 400 (.object [("message", .text "Flow is not publishable"),
      ("errors", .list (defects.map (.text ·.message)))])
  | .error failure => throw failure

/-- A log entry as it is shown. -/
def LogEntry.shown (entry : LogEntry) : Value :=
  .object [("node_id", .ofText? entry.node), ("node_type", .ofText? entry.type),
    ("result", entry.result)]

/-- Shows the log of an execution. -/
def answerLogs (id : String) : Work Reply := do
  let executions := (← get).executions
  match executions.get? id with
  | none => return .refused 404 (.text "Execution not found")
  | some execution =>
    return .ok [("execution_id", .text execution.id), ("status", .text execution.status.name),
      ("current_node_id", .ofText? execution.currentNode),
      ("logs", .list ((executions.logOf id).map (·.shown)))]

/-- A message as it is shown. -/
def ChatMessage.shown (message : ChatMessage) : Value :=
  .object [("id", .int message.id), ("direction", .text message.direction),
    ("type", .ofText? message.type), ("content", .ofText? message.content),
    ("media_url", .ofText? message.mediaUrl),
    ("provider_message_id", .ofText? message.providerMessageId), ("status", .text message.status)]

/-- Shows the latest messages of a conversation. A limit that is no machine word fails. -/
def answerMessages (channel customer : String) (limit : Int) : Work Reply := do
  if !fitsWord limit then return .failed
  let messages := (← get).outside.chats.latest (some channel) customer limit
  return ⟨200, .json (.list (messages.map (·.shown)))⟩

/-- How many messages are shown if nothing else is asked for. -/
def usualMessages : Int := 50

/-- The value of a parameter that has a shape, or the usual one if it is not given. -/
def WebCall.readParameter (call : WebCall) (name : String)
    (check : Value → Checked Value) (usual : Value) : Option Value :=
  match call.parameter? name with
  | none => some usual
  | some text => (check (.text text)).toOption

/-- Answers a request to a route. -/
def Route.answer (route : Route) (call : WebCall) : Work Reply :=
  match route, call.method with
  | .root, "GET" =>
    return .ok [("status", .text "ok"),
      ("message", .text "Flow Engine API is running (PostgreSQL + Celery)")]
  | .health, "GET" => return .ok [("status", .text "healthy")]
  | .webhook channel, "GET" => verifyWebhook channel call
  | .webhook channel, "POST" => receiveDelivery channel call
  | .publish flow, "POST" =>
    match call.readParameter "publish" checkFlag (.bool true) with
    | some (.bool published) => answerPublish flow published
    | _ => return .unreadable
  | .executionLogs execution, "GET" => answerLogs execution
  | .messages channel customer, "GET" =>
    match call.readParameter "limit" checkInteger (.int usualMessages) with
    | some (.int limit) => answerMessages channel customer limit
    | _ => return .unreadable
  | _, _ => return .refused 405 (.text "Method Not Allowed")

/-- Answers a request to a path that is no route. -/
def answerElsewhere (path : String) : Reply :=
  let shorter := withoutEndSlashes path
  if path != shorter && path != "/" && (Route.ofPath? shorter).isSome then ⟨307, .plain ""⟩
  else .refused 404 (.text "Not Found")

/-- Answers a request. Whatever fails, there is a reply. -/
def WebCall.answer (call : WebCall) : StateM World Reply := do
  match Route.ofPath? call.path with
  | none => return answerElsewhere call.path
  | some route =>
    match ← ExceptT.run (route.answer call) with
    | .ok reply => return reply.sent
    | .error _ => return .failed

end ChatFlow

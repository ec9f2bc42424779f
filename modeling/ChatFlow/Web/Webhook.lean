import ChatFlow.Engine.Invocation
import ChatFlow.Web.Request

/-!
# The provider's webhook

The provider first asks whether an address belongs to a channel (`verifyWebhook`), and then delivers
messages to it (`receiveDelivery`). A message is handled once, however often it is delivered: its id
is noted before anything is done with it.
-/

namespace ChatFlow

/-- Confirms that an address belongs to a channel, if the provider shows the channel's token. -/
def verifyWebhook (channel : String) (call : WebCall) : Work Reply := do
  if call.parameter? "hub.mode" != some "subscribe" then
    return .refused 403 (.text "Invalid mode")
  match (← get).channels.usable? (some channel) with
  | none => return .refused 404 (.text "Config not found")
  | some config =>
    if call.parameter? "hub.verify_token" != config.verifyToken then
      return .refused 403 (.text "Invalid verify token")
    return ⟨200, .plain ((call.parameter? "hub.challenge").getD "")⟩

/-! ## Deliveries -/

/-- The first of the items of a field; an absent field counts as a list of an empty object. -/
def firstItem? (fields : Object) (name : String) : Option Value :=
  match (fields.get name).orElse (.list [.object []]) with
  | .list items => items.head?
  | .text s => (s.toList.head?).map fun c => .text (String.singleton c)
  | _ => none

/-- The object that is the first of the items of a field. -/
def firstObject? (fields : Object) (name : String) : Option Object :=
  (firstItem? fields name).bind Value.object?

/-- A message in a delivery: its entry, the sender's id, and what is told of the sender. -/
structure Delivered where
  entry : Object
  customer : Value
  contact : Value
  deriving Repr

/-- The message in a delivered value, if it holds one. -/
def Delivered.ofValue? (value : Object) : Option (Option Delivered) :=
  if !(value.get "messages").isTruthy then some none
  else do
    let entry ← firstObject? value "messages"
    let contact ← firstItem? value "contacts"
    return some ⟨entry, ← entry.field? "from", contact⟩

/-- The value of a delivery: that of its first change. -/
def deliveredValue? (data : Object) : Option Object := do
  let entry ← firstObject? data "entry"
  let change ← firstObject? entry "changes"
  objectField? change "value"

/-- What the sender is called; the sender's id if no name is told. -/
def Delivered.name? (message : Delivered) : Option Value := do
  let contact ← message.contact.object?
  let profile ← objectField? contact "profile"
  return (profile.get "name").orElse message.customer

/-- The variables that a flow is started with. -/
def Delivered.initial (message : Delivered) (name : Value) : Object :=
  let contact := (message.contact.object?).getD []
  [("customer_phone", message.customer), ("customer_name", name),
   ("customer_wa_id", (contact.get "wa_id").orElse message.customer)]

/-- Notes that a message is handled, and tells whether it was not noted before. An id that is null
counts as noted, and one that is a list or an object cannot be noted. -/
def noteHandled? (handled : List String) (id : Value) : Option (Bool × List String) :=
  match columnText? id with
  | none => none
  | some none => some (false, handled)
  | some (some s) =>
    if handled.contains s then some (false, handled) else some (true, handled ++ [s])

namespace Work

/-- What a delivery should hold. -/
def need {α : Type} : Option α → Work α
  | some value => return value
  | none => throw .malformedDelivery

/-- Notes that a message is handled, and tells whether it was not noted before. -/
def noteHandled (id : Value) : Work Bool := do
  let (isNew, handled) ← need (noteHandled? (← get).handled id)
  modify fun world => { world with handled }
  return isNew

/-- Posts a payload to the provider. -/
def post (credentials : Credentials) (payload : Object) : Work Delivery := do
  let (result, provider) := postToProvider credentials payload (← get).outside.provider
  modify fun world => { world with outside := { world.outside with provider } }
  MonadExcept.ofExcept result

/-- Puts a message on record. -/
def recordMessage (entry : ChatEntry) : Work Unit :=
  modify fun world =>
    { world with outside := { world.outside with chats := world.outside.chats.record entry } }

/-- The reply that tells what the engine did with a message. -/
def outcomeReply (outcome : Outcome) : Reply :=
  .ok [("status", .text outcome.action.name), ("execution_id", .ofText? outcome.execution),
    ("execution_status", .ofText? (outcome.status.map (·.name)))]

/-- Handles a message that was not handled before. -/
def handleDelivered (channel : Channel) (message : Delivered) : Work Reply := do
  let customer ← need ((columnText? message.customer).bind id)
  let _ ← post channel.credentials (readPayload (message.entry.get "id"))
  let content ← need (InboundMessage.ofEntry? message.entry)
  let name ← need message.name?
  recordMessage ⟨some channel.id, customer, "inbound", content.type, content.text, .null, .null,
    name⟩
  try
    return outcomeReply (← handleInbound ⟨some channel.id, channel.credentials⟩ customer content
      (message.initial name))
  catch _ => return ⟨500, .json (.object [("status", .text "error")])⟩

end Work

/-- What the provider names the service in its deliveries. -/
def deliveryObject : String := "whatsapp_business_account"

/-- Receives a delivery. -/
def receiveDelivery (channel : String) (call : WebCall) : Work Reply := do
  let data ← Work.need ((readJson? call.body).bind Value.object?)
  match data.get "object" with
  | .text s =>
    if s != deliveryObject then return .refused 400 (.text "Not a WhatsApp webhook")
  | _ => return .refused 400 (.text "Not a WhatsApp webhook")
  let value ← Work.need (deliveredValue? data)
  match ← Work.need (Delivered.ofValue? value) with
  | none => return .ok [("status", .text "ignored")]
  | some message =>
    match (← get).channels.usable? (some channel) with
    | none => return .refused 404 (.text "Config not found")
    | some config =>
      let id ← Work.need (message.entry.field? "id")
      if ← Work.noteHandled id then Work.handleDelivered config message
      else return .ok [("status", .text "duplicate")]

end ChatFlow

import ChatFlow.Node.Scene

/-!
# Sending messages

A node that sends a message renders the templates in it and posts it to the provider. Only a message
that the provider took goes on record; a message that it did not take is noted and the walk goes on.
-/

namespace ChatFlow

/-- Renders the header and the footer. -/
def Frame.render (vars : Object) (frame : Frame) : Except Fault Frame :=
  return ⟨← renderOptional vars frame.header, ← renderOptional vars frame.footer⟩

/-- Renders the title of a button. -/
def Button.render (vars : Object) (button : Button) : Except Fault Button :=
  return { button with title := ← renderTemplate vars button.title }

/-- Renders title and description of a row. -/
def ListRow.render (vars : Object) (row : ListRow) : Except Fault ListRow :=
  return { row with
    title := ← renderTemplate vars row.title
    description := ← renderOptional vars row.description }

/-- Renders the texts of a section. -/
def ListSection.render (vars : Object) (part : ListSection) : Except Fault ListSection :=
  return ⟨← renderTemplate vars part.title, ← part.rows.mapM (·.render vars)⟩

/-- Renders the texts of a contact. -/
def Contact.render (vars : Object) (contact : Contact) : Except Fault Contact :=
  return ⟨← renderTemplate vars contact.name, ← renderOptional vars contact.firstName,
    ← renderOptional vars contact.lastName, ← renderOptional vars contact.phone,
    ← renderOptional vars contact.email⟩

namespace OutboundMessage

/-- Renders all texts of a message that a customer sees. The ids of buttons and rows and the button
that opens a list stay as they are. -/
def render (vars : Object) : OutboundMessage → Except Fault OutboundMessage
  | .text body => return .text (← renderTemplate vars body)
  | .framedText body frame =>
    return .framedText (← renderTemplate vars body) (← frame.render vars)
  | .image link caption =>
    return .image (← renderTemplate vars link) (← renderOptional vars caption)
  | .buttons body frame choices => do
    let body ← renderTemplate vars body
    let choices ← choices.mapM (·.render vars)
    return .buttons body (← frame.render vars) choices
  | .list body button frame sections => do
    let body ← renderTemplate vars body
    let sections ← sections.mapM (·.render vars)
    return .list body button (← frame.render vars) sections
  | .video link caption =>
    return .video (← renderTemplate vars link) (← renderOptional vars caption)
  | .audio link => return .audio (← renderTemplate vars link)
  | .document link filename caption =>
    return .document (← renderTemplate vars link) (← renderOptional vars filename)
      (← renderOptional vars caption)
  | .location latitude longitude name address =>
    return .location (.text (← renderTemplate vars latitude.toText))
      (.text (← renderTemplate vars longitude.toText)) (← renderOptional vars name)
      (← renderOptional vars address)
  | .contacts cards => return .contacts (← cards.mapM (·.render vars))
  | .sticker link => return .sticker (← renderTemplate vars link)

/-- How a message goes on record: its type, a text that stands for it, and its link. -/
def onRecord : OutboundMessage → String × String × Option String
  | .text body | .framedText body _ => ("text", body, none)
  | .image link caption => ("image", (presentText? caption).getD "[Image]", some link)
  | .buttons body _ _ | .list body _ _ _ => ("interactive", body, none)
  | .video link caption => ("video", (presentText? caption).getD "[Video]", some link)
  | .audio link => ("audio", "[Audio]", some link)
  | .document link filename caption =>
    ("document", ((presentText? caption).or (presentText? filename)).getD "[Document]", some link)
  | .location latitude longitude _ _ =>
    ("location", "[Location: " ++ latitude.toText ++ ", " ++ longitude.toText ++ "]", none)
  | .contacts cards =>
    ("contacts", "[Contact: " ++ ", ".intercalate (cards.map (·.name)) ++ "]", none)
  | .sticker link => ("sticker", "[Sticker]", some link)

/-- The record of a message that the provider took. -/
def entry (message : OutboundMessage) (recipient : Recipient) (providerMessageId : Value) :
    ChatEntry :=
  let (type, content, link) := message.onRecord
  ⟨recipient.channelId, recipient.customerId, "outbound", .text type, .text content,
   .ofText? link, providerMessageId, .null⟩

end OutboundMessage

/-- Sends a message whose texts are templates. -/
def sendMessage (recipient : Recipient) (template : OutboundMessage) : Act NodeResult := do
  let message ← template.render (← Act.vars)
  let delivery ← Act.post recipient.credentials (message.payload recipient.customerId)
  if delivery.ok then
    Act.recordMessage (message.entry recipient delivery.providerMessageId)
  return ⟨.leave none, [("sent", .bool delivery.ok),
    ("provider_message_id", delivery.providerMessageId), ("error", delivery.error)]⟩

end ChatFlow

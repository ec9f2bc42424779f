import ChatFlow.Value.Text

/-!
# Inbound messages

What the engine knows of a message that a customer sent. `InboundMessage.ofEntry?` reads a message
as the provider delivers it; parts of other kinds than text become a short text in brackets. The
fields hold whatever values the provider sent; null stands for a field that is absent.
-/

namespace ChatFlow

/-- A message from a customer. -/
structure InboundMessage where
  type : Value
  text : Value
  buttonId : Value
  listRowId : Value
  messageId : Value
  timestamp : Value
  deriving Repr, Inhabited

/-- A field that has to hold an object; an absent one counts as empty. -/
def objectField? (fields : Object) (name : String) : Option Object :=
  match fields.field? name with
  | none => some []
  | some value => value.object?

/-- The caption of a part, or what stands for it. -/
def captionText? (entry : Object) (part standIn : String) : Option Value := do
  let fields ← objectField? entry part
  return (fields.get "caption").orElse (.text standIn)

namespace InboundMessage

/-- Reads the choice that a customer made in an interactive message. -/
def withChoice? (message : InboundMessage) (entry : Object) : Option InboundMessage := do
  let choice ← objectField? entry "interactive"
  match choice.get "type" with
  | .text "button_reply" =>
    let reply ← objectField? choice "button_reply"
    return { message with buttonId := reply.get "id", text := reply.get "title" }
  | .text "list_reply" =>
    let reply ← objectField? choice "list_reply"
    return { message with listRowId := reply.get "id", text := reply.get "title" }
  | _ => return message

/-- Reads a message as the provider delivers it. A part that should be an object and is not one
makes the message unreadable. -/
def ofEntry? (entry : Object) : Option InboundMessage := do
  let type := entry.get "type"
  let message : InboundMessage :=
    ⟨type, .null, .null, .null, entry.get "id", entry.get "timestamp"⟩
  match type with
  | .text "text" =>
    let fields ← objectField? entry "text"
    return { message with text := fields.get "body" }
  | .text "interactive" => message.withChoice? entry
  | .text "image" => return { message with text := ← captionText? entry "image" "[Image]" }
  | .text "document" => return { message with text := ← captionText? entry "document" "[Document]" }
  | .text "audio" => return { message with text := .text "[Audio]" }
  | .text "video" => return { message with text := ← captionText? entry "video" "[Video]" }
  | .text "location" =>
    let fields ← objectField? entry "location"
    let latitude := (fields.get "latitude").display
    let longitude := (fields.get "longitude").display
    return { message with text := .text ("[Location: " ++ latitude ++ ", " ++ longitude ++ "]") }
  | other => return { message with text := .text ("[" ++ other.display ++ "]") }

/-- The variables that every message sets. A field that is absent sets nothing. -/
def observed (message : InboundMessage) : Object :=
  [("last_message", message.text), ("last_message_type", message.type),
   ("last_button_id", message.buttonId), ("last_list_row_id", message.listRowId),
   ("message_timestamp", message.timestamp)].filter (!·.2.isNull)

end InboundMessage

end ChatFlow

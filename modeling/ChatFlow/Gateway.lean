import ChatFlow.Failure
import ChatFlow.Message
import ChatFlow.Value.Text

/-!
# The messaging provider

`OutboundMessage.payload` writes a message in the form that the provider takes. Buttons, rows and
their texts beyond the provider's limits are cut off. `postToProvider` sends a payload and reads the
answer: an error of the connection, an error status and an answer that names an error all come back
as a `Delivery` that did not succeed.
-/

namespace ChatFlow

/-- What a channel needs to send messages. -/
structure Credentials where
  accessToken : Option String
  phoneNumberId : Option String
  deriving DecidableEq, Repr

/-- A request to the provider. -/
structure ProviderRequest where
  url : String
  authorization : String
  payload : Value
  deriving Repr

/-- What became of a message: whether it was taken, the provider's id for it, what was wrong, and
the provider's answer. -/
structure Delivery where
  ok : Bool
  providerMessageId : Value
  error : Value
  raw : Object
  deriving Repr

/-! ## Limits -/

/-- The most buttons of a message. -/
def mostButtons : Nat := 3

/-- The most characters of a button's title. -/
def longestButtonTitle : Nat := 20

/-- The most characters of the button that opens a list. -/
def longestListButton : Nat := 20

/-- The most characters of the title of a section or a row. -/
def longestListTitle : Nat := 24

/-- The most rows of a section. -/
def mostRows : Nat := 10

/-- The most characters of the description of a row. -/
def longestRowDescription : Nat := 72

/-! ## Payloads -/

/-- A field that is there only if its text is not empty. -/
def presentField (name : String) (text : Option String) : Object :=
  match presentText? text with
  | some s => [(name, .text s)]
  | none => []

/-- A text with its header and footer folded in. -/
def foldFrame (body : String) (frame : Frame) : String :=
  let header := ((presentText? frame.header).map fun s => "*" ++ s ++ "*\n\n").getD ""
  let footer := ((presentText? frame.footer).map fun s => "\n\n_" ++ s ++ "_").getD ""
  header ++ body ++ footer

/-- The header and the footer of an interactive message. -/
def frameFields (frame : Frame) : Object :=
  (match presentText? frame.header with
  | some s => [("header", .object [("type", .text "text"), ("text", .text s)])]
  | none => []) ++
  match presentText? frame.footer with
  | some s => [("footer", .object [("text", .text s)])]
  | none => []

/-- A button as it is sent. -/
def Button.payload (button : Button) : Value :=
  .object [("type", .text "reply"), ("reply", .object [("id", .text button.id),
    ("title", .text (takeText longestButtonTitle button.title))])]

/-- A row as it is sent. -/
def ListRow.payload (row : ListRow) : Value :=
  .object ([("id", .text row.id), ("title", .text (takeText longestListTitle row.title))]
    ++ presentField "description" (row.description.map (takeText longestRowDescription)))

/-- A section as it is sent. -/
def ListSection.payload (part : ListSection) : Value :=
  .object ([("rows", .list ((part.rows.take mostRows).map ListRow.payload))]
    ++ presentField "title" (some (takeText longestListTitle part.title)))

/-- An interactive message as it is sent. -/
def interactivePayload (kind body : String) (frame : Frame) (action : Object) : Value :=
  .object ([("type", .text kind), ("body", .object [("text", .text body)]),
    ("action", .object action)] ++ frameFields frame)

/-- A contact as it is sent. The name stands for a first name that is missing. -/
def Contact.payload (contact : Contact) : Value :=
  let name : Object :=
    [("formatted_name", .text contact.name),
     ("first_name", .text ((presentText? contact.firstName).getD contact.name)),
     ("last_name", .text ((presentText? contact.lastName).getD ""))]
  let entries (key kind : String) (entry : Option String) : Value :=
    .list (((presentText? entry).map fun s =>
      Value.object [(key, .text s), ("type", .text kind)]).toList)
  .object [("name", .object name), ("phones", entries "phone" "CELL" contact.phone),
    ("emails", entries "email" "WORK" contact.email)]

/-- The name that the provider has for a kind of message, and the message in its form. -/
def OutboundMessage.content : OutboundMessage → String × Value
  | .text body => ("text", .object [("body", .text body)])
  | .framedText body frame => ("text", .object [("body", .text (foldFrame body frame))])
  | .image link caption =>
    ("image", .object ([("link", .text link)] ++ presentField "caption" caption))
  | .buttons body frame choices =>
    ("interactive", interactivePayload "button" body frame
      [("buttons", .list ((choices.take mostButtons).map Button.payload))])
  | .list body button frame sections =>
    ("interactive", interactivePayload "list" body frame
      [("button", .text (takeText longestListButton button)),
       ("sections", .list (sections.map ListSection.payload))])
  | .video link caption =>
    ("video", .object ([("link", .text link)] ++ presentField "caption" caption))
  | .audio link => ("audio", .object [("link", .text link)])
  | .document link filename caption =>
    ("document", .object ([("link", .text link)] ++ presentField "filename" filename
      ++ presentField "caption" caption))
  | .location latitude longitude name address =>
    ("location", .object ([("latitude", .text latitude.display),
      ("longitude", .text longitude.display)] ++ presentField "name" name
      ++ presentField "address" address))
  | .contacts cards => ("contacts", .list (cards.map Contact.payload))
  | .sticker link => ("sticker", .object [("link", .text link)])

/-- The name that the provider's interface goes by in every payload. -/
def productField : String × Value := ("messaging_product", .text "whatsapp")

/-- A message to a recipient in the form that the provider takes. -/
def OutboundMessage.payload (message : OutboundMessage) (recipient : String) : Object :=
  let (kind, content) := message.content
  [productField, ("to", .text recipient), ("type", .text kind), (kind, content)]

/-- The payload that marks a message as read. -/
def readPayload (messageId : Value) : Object :=
  [productField, ("status", .text "read"), ("message_id", messageId)]

/-! ## Sending -/

/-- The address that messages of a phone number are posted to. -/
def messagesUrl (phoneNumberId : String) : String :=
  "https://graph.facebook.com/v23.0/" ++ phoneNumberId ++ "/messages"

/-- A message that was not sent, with the reason. -/
def Delivery.failed (error : Value) (raw : Object) : Delivery := ⟨false, .null, error, raw⟩

/-- The provider's answer when none was arranged: it takes the message and numbers it. -/
def standardDelivery (number : Nat) : Answer :=
  .response 200 ((Value.object [("messages", .list [.object
    [("id", .text ("wamid.out." ++ decimalText number))]])]).toJson .spaced)

/-- The id that the provider gives to the message it took. -/
def takenMessageId (answer : Object) : Except Failure Value :=
  match (answer.get "messages").orElse (.list [.object []]) with
  | .list (.object first :: _) => .ok (Object.get first "id")
  | .list (other :: _) => .error (.messageOfKind other.kindName)
  | .list [] => .ok .null
  | .text _ => .error (.messageOfKind (Value.text "").kindName)
  | .object _ => .error .messagesByName
  | other => .error (.messagesOfKind other.kindName)

/-- What became of a message, by the response to it. -/
def readDelivery (status : Int) (body : String) : Except Failure Delivery := do
  let answer := ((readJson? body).bind Value.object?).getD []
  match answer.field? "error" with
  | some (.object error) => return .failed (Object.get error "message") answer
  | some error => return .failed (error.orElse (.text body)) answer
  | none =>
    if 400 ≤ status then return .failed (.text body) answer
    else return ⟨true, ← takenMessageId answer, .null, answer⟩

/-- The request that posts a payload. -/
def providerRequest (accessToken phoneNumberId : String) (payload : Object) :
    Except CallError ProviderRequest := do
  let url ← requestUrl (messagesUrl phoneNumberId)
  let authorization := "Bearer " ++ accessToken
  checkHeaders [("Authorization", authorization)]
  let _ ← jsonBody (.object payload)
  return ⟨url.toText, authorization, .object payload⟩

/-- Posts a payload to the provider and reads what became of it. -/
def postToProvider (credentials : Credentials) (payload : Object) (line : Line ProviderRequest) :
    Except Failure Delivery × Line ProviderRequest :=
  match presentText? credentials.accessToken, presentText? credentials.phoneNumberId with
  | some accessToken, some phoneNumberId =>
    match providerRequest accessToken phoneNumberId payload with
    | .error error => (.error (.call error), line)
    | .ok request =>
      let (answer, line) := line.ask standardDelivery request
      match answer.toResponse with
      | .ok (status, body) => (readDelivery status body, line)
      | .error (.disconnected _ message) => (.ok (.failed (.text message) []), line)
      | .error error => (.error (.call error), line)
  | _, _ => (.ok (.failed (.text "WhatsApp credentials missing") []), line)

end ChatFlow

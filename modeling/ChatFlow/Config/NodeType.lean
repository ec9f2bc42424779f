import ChatFlow.Config.Shape

/-!
# The types of nodes

The types of nodes that the engine knows, their names, and the shapes of their configurations.
-/

namespace ChatFlow

/-- A type of node. -/
inductive NodeType where
  | trigger
  | sendText
  | sendTextEnhanced
  | sendImage
  | sendButtons
  | sendList
  | sendVideo
  | sendAudio
  | sendDocument
  | sendLocation
  | sendContact
  | sendSticker
  | waitForReply
  | condition
  | setVariable
  | apiCall
  | delay
  | loop
  | finish
  | getCustomerPhone
  | getCustomerName
  | getCustomerCountry
  | getMessageTimestamp
  | formatPhoneNumber
  | randomChoice
  | dateTime
  | mathOperation
  | textOperation
  | markAsRead
  deriving DecidableEq, Repr

namespace NodeType

/-- The types and the names that flows give them. -/
def names : List (String × NodeType) :=
  [("trigger", .trigger), ("sendText", .sendText), ("sendTextEnhanced", .sendTextEnhanced),
   ("sendImage", .sendImage), ("sendButtons", .sendButtons), ("sendList", .sendList),
   ("sendVideo", .sendVideo), ("sendAudio", .sendAudio), ("sendDocument", .sendDocument),
   ("sendLocation", .sendLocation), ("sendContact", .sendContact),
   ("sendSticker", .sendSticker), ("waitForReply", .waitForReply), ("condition", .condition),
   ("setVariable", .setVariable), ("apiCall", .apiCall), ("delay", .delay), ("loop", .loop),
   ("end", .finish), ("getCustomerPhone", .getCustomerPhone),
   ("getCustomerName", .getCustomerName), ("getCustomerCountry", .getCustomerCountry),
   ("getMessageTimestamp", .getMessageTimestamp), ("formatPhoneNumber", .formatPhoneNumber),
   ("randomChoice", .randomChoice), ("dateTime", .dateTime), ("mathOperation", .mathOperation),
   ("textOperation", .textOperation), ("markAsRead", .markAsRead)]

/-- The type of a name; nodes of other types are passed over when a flow is walked. -/
def ofName? (name : String) : Option NodeType :=
  names.lookup name

end NodeType

namespace ShapeField

/-- A field that has to be given. -/
def required (name : String) (shape : Shape) : ShapeField := .mk name shape none

/-- A text that may be left out. -/
def textOr (name standIn : String) : ShapeField := .mk name .text (some (.text standIn))

/-- Something that may be null or left out. -/
def optional (name : String) (shape : Shape) : ShapeField :=
  .mk name (.optional shape) (some .null)

/-- A list that may be left out. -/
def listOf (name : String) (item : Shape) : ShapeField :=
  .mk name (.list item) (some (.list []))

/-- One of some words, the first of which stands for it if it is left out. -/
def oneOf (name : String) (options : List String) : ShapeField :=
  .mk name (.word false options) (some (.text (options.headD "")))

end ShapeField

open ShapeField

/-- The formats of phone numbers. -/
def phoneFormats : List String := ["e164", "local", "international"]

/-- A rule of a condition. -/
def conditionRuleShape : Shape := .record "ConditionRule"
  [required "variable" .text, textOr "operator" "equals",
   .mk "value" .anything (some (.text "")), required "output_handle" .text]

/-- An assignment to a variable. -/
def assignmentShape : Shape := .record "VariableAssignment"
  [required "variable_name" .text, textOr "value_type" "static",
   .mk "value" .anything (some (.text ""))]

/-- A variable that takes a part of the answer to a call. -/
def responseMappingShape : Shape := .record "ResponseMapping"
  [required "variable_name" .text, optional "response_path" .text, optional "json_path" .text]

/-- A button of a message. -/
def buttonShape : Shape := .record "ButtonItem" [required "id" .text, textOr "title" ""]

/-- A row of a list message. -/
def listRowShape : Shape := .record "ListRow"
  [required "id" .text, textOr "title" "", optional "description" .text]

/-- A section of a list message. -/
def listSectionShape : Shape := .record "ListSection"
  [textOr "title" "", listOf "rows" listRowShape]

/-- A contact that is sent. -/
def contactShape : Shape := .record "ContactItem"
  [required "name" .text, optional "first_name" .text, optional "last_name" .text,
   optional "phone" .text, optional "email" .text]

namespace NodeType

/-- The name of the configuration of a type. -/
def model : NodeType → String
  | .trigger => "TriggerConfig"
  | .sendText => "SendTextConfig"
  | .sendTextEnhanced => "SendTextEnhancedConfig"
  | .sendImage => "SendImageConfig"
  | .sendButtons => "SendButtonsConfig"
  | .sendList => "SendListConfig"
  | .sendVideo => "SendVideoConfig"
  | .sendAudio => "SendAudioConfig"
  | .sendDocument => "SendDocumentConfig"
  | .sendLocation => "SendLocationConfig"
  | .sendContact => "SendContactConfig"
  | .sendSticker => "SendStickerConfig"
  | .waitForReply => "WaitForReplyConfig"
  | .condition => "ConditionConfig"
  | .setVariable => "SetVariableConfig"
  | .apiCall => "ApiCallConfig"
  | .delay => "DelayConfig"
  | .loop => "LoopConfig"
  | .finish => "EndConfig"
  | .getCustomerPhone => "GetCustomerPhoneConfig"
  | .getCustomerName => "GetCustomerNameConfig"
  | .getCustomerCountry => "GetCustomerCountryConfig"
  | .getMessageTimestamp => "GetMessageTimestampConfig"
  | .formatPhoneNumber => "FormatPhoneNumberConfig"
  | .randomChoice => "RandomChoiceConfig"
  | .dateTime => "DateTimeConfig"
  | .mathOperation => "MathOperationConfig"
  | .textOperation => "TextOperationConfig"
  | .markAsRead => "MarkAsReadConfig"

/-- The fields of the configuration of a type. -/
def fields : NodeType → List ShapeField
  | .trigger | .markAsRead => []
  | .sendText => [textOr "message" ""]
  | .sendTextEnhanced =>
    [textOr "body_text" "", optional "header_text" .text, optional "footer_text" .text]
  | .sendImage => [textOr "image_url" "", textOr "caption" ""]
  | .sendButtons =>
    [textOr "body_text" "", optional "header_text" .text, optional "footer_text" .text,
     listOf "buttons" buttonShape]
  | .sendList =>
    [textOr "body_text" "", textOr "button_text" "View Options", optional "header_text" .text,
     optional "footer_text" .text, listOf "sections" listSectionShape]
  | .sendVideo => [textOr "video_url" "", optional "caption" .text]
  | .sendAudio => [textOr "audio_url" ""]
  | .sendDocument =>
    [textOr "document_url" "", optional "filename" .text, optional "caption" .text]
  | .sendLocation =>
    [.mk "latitude" .textOrNumber (some (.text "")),
     .mk "longitude" .textOrNumber (some (.text "")),
     optional "name" .text, optional "address" .text]
  | .sendContact => [listOf "contacts" contactShape]
  | .sendSticker => [textOr "sticker_url" ""]
  | .waitForReply =>
    [optional "variable_name" .text, textOr "expected_type" "any",
     optional "timeout_seconds" .integer]
  | .condition =>
    [listOf "conditions" conditionRuleShape, textOr "default_handle" "false",
     .mk "show_default_handle" .flag (some (.bool true))]
  | .setVariable => [listOf "assignments" assignmentShape]
  | .apiCall =>
    [.mk "method" (.word true ["GET", "POST", "PUT", "PATCH", "DELETE"]) (some (.text "GET")),
     textOr "url" "", .mk "headers" .textMap (some (.object [])), optional "body" .content,
     listOf "response_mapping" responseMappingShape, optional "timeout_ms" .integer]
  | .delay => [.mk "delay_seconds" .number (some (.int 1))]
  | .loop =>
    [oneOf "loop_type" ["count", "while", "foreach"],
     .mk "max_iterations" .integer (some (.int 10)),
     optional "collection" .text, optional "item_variable" .text]
  | .finish => [oneOf "end_type" ["complete", "error"]]
  | .getCustomerPhone =>
    [textOr "variable_name" "customer_phone_formatted", oneOf "format" phoneFormats]
  | .getCustomerName => [textOr "variable_name" "customer_name"]
  | .getCustomerCountry => [textOr "variable_name" "customer_country"]
  | .getMessageTimestamp => [textOr "variable_name" "message_timestamp"]
  | .formatPhoneNumber =>
    [textOr "source_variable" "customer_phone", textOr "variable_name" "formatted_phone",
     oneOf "format" phoneFormats]
  | .randomChoice => [listOf "choices" .text, optional "variable_name" .text]
  | .dateTime =>
    [textOr "variable_name" "current_datetime",
     oneOf "operation" ["now", "today", "addDays", "addHours"],
     oneOf "format" ["iso", "date", "time", "timestamp", "readable"],
     optional "days" .numberOrText, optional "hours" .numberOrText]
  | .mathOperation =>
    [textOr "variable_name" "math_result",
     oneOf "operation" ["add", "subtract", "multiply", "divide", "modulo", "round", "floor",
       "ceil", "abs", "min", "max"],
     .mk "value_a" .textOrNumber (some (.text "0")), optional "value_b" .numberOrText]
  | .textOperation =>
    [textOr "variable_name" "text_result",
     oneOf "operation" ["uppercase", "lowercase", "trim", "length", "substring", "replace",
       "split", "join", "capitalize", "contains"],
     textOr "text" "", optional "start" .integer, optional "end" .integer,
     optional "search" .text, optional "replace_with" .text, optional "delimiter" .text,
     optional "array_variable" .text]

/-- The shape of the configuration of a type. -/
def shape (type : NodeType) : Shape :=
  .record type.model type.fields

end NodeType

/-- A configuration that was rejected: the name of its kind, and all that is wrong with it. -/
structure ConfigReport where
  model : String
  problems : List Problem
  deriving DecidableEq, Repr

/-- The configuration itself, or an empty one in the place of a value that counts as absent. -/
def givenConfig (config : Value) : Value :=
  config.orElse (.object [])

/-- Reads the configuration of a node: its fields under their plain names, all of them. -/
def NodeType.readConfig (type : NodeType) (config : Value) : Except ConfigReport Object :=
  match type.shape.check (givenConfig config) with
  | .ok value => .ok (value.object?.getD [])
  | .error problems => .error ⟨type.model, problems⟩

/-- The first line of a report. -/
def ConfigReport.headline (report : ConfigReport) : String :=
  let count := report.problems.length
  decimalText count ++ " validation error" ++ (if count = 1 then "" else "s") ++ " for "
    ++ report.model

end ChatFlow

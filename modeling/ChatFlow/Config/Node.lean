import ChatFlow.Config.NodeType
import ChatFlow.Message
import ChatFlow.Phone
import ChatFlow.Text.Search
import ChatFlow.Value.Number

/-!
# Configurations of nodes

`NodeConfig` is what a node does, with the parts that its type calls for. It is read from the normal
form of the node's configuration, in which every field is there and has its shape; so the readers of
single fields below never meet the values for which they stand in.
-/

namespace ChatFlow

namespace Object

/-- A text field. -/
def textAt (fields : Object) (name : String) : String :=
  ((fields.get name).text?).getD ""

/-- A text field that may be null. -/
def optionalText (fields : Object) (name : String) : Option String :=
  (fields.get name).text?

/-- A text field that counts only if it is not empty. -/
def presentText (fields : Object) (name : String) : Option String :=
  presentText? (fields.optionalText name)

/-- A whole number that may be null. -/
def optionalInt (fields : Object) (name : String) : Option Int :=
  match fields.get name with
  | .int n => some n
  | _ => none

/-- The objects in a list. -/
def records (fields : Object) (name : String) : List Object :=
  (((fields.get name).list?).getD []).filterMap Value.object?

end Object

/-- A rule of a condition: the handle to leave by if a comparison holds. -/
structure ConditionRule where
  variableName : String
  operator : String
  expected : Value
  handle : String
  deriving Repr

/-- An assignment: of the value of another variable, or of a value with templates in it. -/
structure Assignment where
  variableName : String
  copiesVariable : Bool
  value : Value
  deriving Repr

/-- A variable that takes the part of an answer at a path. -/
structure ResponseMapping where
  variableName : String
  path : String
  deriving DecidableEq, Repr

/-- A call to another service. -/
structure ApiCall where
  method : String
  url : String
  headers : List (String × String)
  body : Value
  mappings : List ResponseMapping
  timeoutMs : Option Int
  deriving Repr

/-- What decides how often a loop is run. -/
structure LoopPlan where
  /-- The path of the list that is gone through, if the loop goes through one. -/
  collection : Option String
  itemVariable : Option String
  maxIterations : Int
  deriving Repr

/-- The moment that a date node takes. -/
inductive DateOperation where
  | now
  | today
  | addDays (days : Value)
  | addHours (hours : Value)
  deriving Repr

/-- How a moment is written. -/
inductive DateFormat where
  | iso
  | date
  | time
  | timestamp
  | readable
  deriving DecidableEq, Repr

/-- A computation with one or two numbers. -/
inductive MathOperation where
  | add
  | subtract
  | multiply
  | divide
  | modulo
  | round
  | floor
  | ceil
  | abs
  | min
  | max
  deriving DecidableEq, Repr

/-- A computation with texts. -/
inductive TextOperation where
  | uppercase
  | lowercase
  | trim
  | length
  | substring (start : Int) (stop : Option Int)
  | replace (search : Option String) (replacement : String)
  | split (delimiter : String)
  | join (array : Option String) (delimiter : String)
  | capitalize
  | contains (search : String)
  deriving DecidableEq, Repr

/-- What a node does. -/
inductive NodeConfig where
  | trigger
  | send (message : OutboundMessage)
  | waitForReply (expected : String) (variableName : Option String)
  | condition (rules : List ConditionRule) (defaultHandle : String)
  | setVariable (assignments : List Assignment)
  | apiCall (call : ApiCall)
  | delay (seconds : Value)
  | loop (plan : LoopPlan)
  | finish (kind : String)
  | customerPhone (variableName : String) (format : PhoneFormat)
  | customerName (variableName : String)
  | customerCountry (variableName : String)
  | messageTimestamp (variableName : String)
  | formatPhone (source variableName : String) (format : PhoneFormat)
  | randomChoice (choices : List String) (variableName : Option String)
  | dateTime (variableName : String) (operation : DateOperation) (format : DateFormat)
  | math (variableName : String) (operation : MathOperation) (left right : Value)
  | text (variableName : String) (operation : TextOperation) (text : String)
  | markAsRead
  deriving Repr

/-- The path of a mapping. Everything up to the first name counts as the root if it begins with a
dollar sign. -/
def mappingPath (responsePath jsonPath : Option String) : String :=
  let path := ((presentText? responsePath).or (presentText? jsonPath)).getD ""
  match path.toList with
  | '$' :: rest => String.ofList (rest.dropWhile (· == '.'))
  | _ => path

namespace NodeConfig

/-- Reads the frame of an interactive message. -/
def frameOf (fields : Object) : Frame :=
  ⟨fields.presentText "header_text", fields.presentText "footer_text"⟩

/-- Reads a button. -/
def buttonOf (fields : Object) : Button :=
  ⟨fields.textAt "id", fields.textAt "title"⟩

/-- Reads a row. -/
def rowOf (fields : Object) : ListRow :=
  ⟨fields.textAt "id", fields.textAt "title", fields.presentText "description"⟩

/-- Reads a section. -/
def sectionOf (fields : Object) : ListSection :=
  ⟨fields.textAt "title", (fields.records "rows").map rowOf⟩

/-- Reads a contact. -/
def contactOf (fields : Object) : Contact :=
  ⟨fields.textAt "name", fields.presentText "first_name", fields.presentText "last_name",
   fields.presentText "phone", fields.presentText "email"⟩

/-- Reads a rule of a condition. -/
def ruleOf (fields : Object) : ConditionRule :=
  ⟨fields.textAt "variable", fields.textAt "operator", fields.get "value",
   fields.textAt "output_handle"⟩

/-- Reads an assignment. -/
def assignmentOf (fields : Object) : Assignment :=
  ⟨fields.textAt "variable_name",
   ["variable", "from_variable"].contains (fields.textAt "value_type"), fields.get "value"⟩

/-- Reads a mapping. -/
def mappingOf (fields : Object) : ResponseMapping :=
  ⟨fields.textAt "variable_name",
   mappingPath (fields.optionalText "response_path") (fields.optionalText "json_path")⟩

/-- Reads the headers of a call. -/
def headersOf (fields : Object) : List (String × String) :=
  (((fields.get "headers").object?).getD []).map fun (name, value) =>
    (name, value.text?.getD "")

/-- Reads a call. -/
def apiCallOf (fields : Object) : ApiCall :=
  ⟨fields.textAt "method", fields.textAt "url", headersOf fields, fields.get "body",
   (fields.records "response_mapping").map mappingOf, fields.optionalInt "timeout_ms"⟩

/-- Reads the plan of a loop. A limit of zero is the usual limit of ten. -/
def loopOf (fields : Object) : LoopPlan :=
  let limit := (fields.optionalInt "max_iterations").getD 0
  ⟨if fields.textAt "loop_type" = "foreach" then fields.presentText "collection" else none,
   fields.presentText "item_variable", if limit = 0 then 10 else limit⟩

/-- Reads the operation of a date node. -/
def dateOperationOf (fields : Object) : DateOperation :=
  match fields.textAt "operation" with
  | "today" => .today
  | "addDays" => .addDays (fields.get "days")
  | "addHours" => .addHours (fields.get "hours")
  | _ => .now

/-- The names of the formats of moments. -/
def dateFormats : List (String × DateFormat) :=
  [("iso", .iso), ("date", .date), ("time", .time), ("timestamp", .timestamp),
   ("readable", .readable)]

/-- The names of the computations with numbers. -/
def mathOperations : List (String × MathOperation) :=
  [("add", .add), ("subtract", .subtract), ("multiply", .multiply), ("divide", .divide),
   ("modulo", .modulo), ("round", .round), ("floor", .floor), ("ceil", .ceil), ("abs", .abs),
   ("min", .min), ("max", .max)]

/-- Reads the operation of a text node. -/
def textOperationOf (fields : Object) : TextOperation :=
  match fields.textAt "operation" with
  | "uppercase" => .uppercase
  | "lowercase" => .lowercase
  | "trim" => .trim
  | "length" => .length
  | "substring" => .substring ((fields.optionalInt "start").getD 0) (fields.optionalInt "end")
  | "replace" => .replace (fields.presentText "search") (fields.textAt "replace_with")
  | "split" => .split ((fields.presentText "delimiter").getD ",")
  | "join" =>
    .join (fields.presentText "array_variable") ((fields.optionalText "delimiter").getD ", ")
  | "capitalize" => .capitalize
  | _ => .contains (fields.textAt "search")

/-- What a node of a type does with the fields of its configuration. -/
def ofFields (type : NodeType) (fields : Object) : NodeConfig :=
  let variableName := fields.textAt "variable_name"
  let body := fields.textAt "body_text"
  let caption := fields.presentText "caption"
  match type with
  | .trigger => .trigger
  | .sendText => .send (.text (fields.textAt "message"))
  | .sendTextEnhanced => .send (.framedText body (frameOf fields))
  | .sendImage => .send (.image (fields.textAt "image_url") caption)
  | .sendButtons => .send (.buttons body (frameOf fields) ((fields.records "buttons").map buttonOf))
  | .sendList =>
    .send (.list body (fields.textAt "button_text") (frameOf fields)
      ((fields.records "sections").map sectionOf))
  | .sendVideo => .send (.video (fields.textAt "video_url") caption)
  | .sendAudio => .send (.audio (fields.textAt "audio_url"))
  | .sendDocument =>
    .send (.document (fields.textAt "document_url") (fields.presentText "filename") caption)
  | .sendLocation =>
    .send (.location (fields.get "latitude") (fields.get "longitude") (fields.presentText "name")
      (fields.presentText "address"))
  | .sendContact => .send (.contacts ((fields.records "contacts").map contactOf))
  | .sendSticker => .send (.sticker (fields.textAt "sticker_url"))
  | .waitForReply =>
    .waitForReply ((fields.presentText "expected_type").getD "any")
      (fields.presentText "variable_name")
  | .condition =>
    .condition ((fields.records "conditions").map ruleOf) (fields.textAt "default_handle")
  | .setVariable => .setVariable ((fields.records "assignments").map assignmentOf)
  | .apiCall => .apiCall (apiCallOf fields)
  | .delay => .delay (fields.get "delay_seconds")
  | .loop => .loop (loopOf fields)
  | .finish => .finish (fields.textAt "end_type")
  | .getCustomerPhone => .customerPhone variableName (.ofName (fields.textAt "format"))
  | .getCustomerName => .customerName variableName
  | .getCustomerCountry => .customerCountry variableName
  | .getMessageTimestamp => .messageTimestamp variableName
  | .formatPhoneNumber =>
    .formatPhone (fields.textAt "source_variable") variableName (.ofName (fields.textAt "format"))
  | .randomChoice =>
    .randomChoice ((((fields.get "choices").list?).getD []).filterMap Value.text?)
      (fields.presentText "variable_name")
  | .dateTime =>
    .dateTime variableName (dateOperationOf fields)
      ((dateFormats.lookup (fields.textAt "format")).getD .iso)
  | .mathOperation =>
    .math variableName ((mathOperations.lookup (fields.textAt "operation")).getD .add)
      (fields.get "value_a") (fields.get "value_b")
  | .textOperation => .text variableName (textOperationOf fields) (fields.textAt "text")
  | .markAsRead => .markAsRead

/-- The variable that takes the reply when a walk is resumed at the node. -/
def replyVariable? : NodeConfig → Option String
  | .waitForReply _ variableName | .randomChoice _ variableName => variableName
  | .customerPhone variableName _ | .customerName variableName | .customerCountry variableName
  | .messageTimestamp variableName | .formatPhone _ variableName _ | .dateTime variableName _ _
  | .math variableName _ _ _ | .text variableName _ _ => presentText? (some variableName)
  | _ => none

/-- The handles that a node can be left by. A node that does not branch has none to choose from: it
is left by its only way out. -/
def allowedHandles : NodeConfig → Option (List String)
  | .condition rules defaultHandle => some (rules.map (·.handle) ++ [defaultHandle])
  | .loop _ => some ["loop", "complete"]
  | .randomChoice choices _ => some choices
  | _ => none

end NodeConfig

/-- Reads what a node of a type does. -/
def NodeType.configure (type : NodeType) (config : Value) : Except ConfigReport NodeConfig :=
  (type.readConfig config).map (NodeConfig.ofFields type)

/-- A set of texts in order, without repetitions. -/
def sortedTexts (texts : List String) : List String :=
  (texts.mergeSort (fun a b => decide (a ≤ b))).eraseDups

end ChatFlow

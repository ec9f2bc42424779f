import ChatFlow.Config.Node
import ChatFlow.Node.Scene
import ChatFlow.Text.Case

/-!
# Calls to other services

A node can call another service and keep parts of its answer in variables. A call that fails does
not stop the walk: three variables tell what became of the last call, `api_success`, and either
`api_status` or `api_error`. Only a way to the service that breaks fails the node.
-/

namespace ChatFlow

/-- The variable that tells whether the last call succeeded. -/
def successVariable : String := "api_success"

/-- The variable that holds the status of the last answer. -/
def statusVariable : String := "api_status"

/-- The variable that holds the reason why the last call failed. -/
def errorVariable : String := "api_error"

/-- The seconds that a call may take if none are configured. -/
def usualTimeout : Float := 10.0

/-- The seconds that a call may take. -/
def callTimeout : Option Int → Except Failure Float
  | none => .ok usualTimeout
  | some milliseconds =>
    if milliseconds = 0 then .ok usualTimeout
    else
      let size := floatOfDecimal milliseconds.natAbs (-3)
      if (Binary.ofFloat? size).isNone then .error .quotientTooLarge
      else .ok (if milliseconds < 0 then -size else size)

/-- The body of a call. -/
inductive CallBody where
  | absent
  | plain (content : String)
  | json (value : Value)
  deriving Repr

/-- The text of a body. -/
def CallBody.text? : CallBody → Except CallError String
  | .absent => .ok ""
  | .plain content => .ok content
  | .json value => jsonBody value

/-- A call whose templates are rendered. -/
structure RenderedCall where
  method : String
  url : String
  headers : List (String × String)
  body : CallBody
  deriving Repr

namespace ApiCall

/-- The method that sends no body. -/
def bodiless : String := "GET"

/-- Renders the body, if the method sends one. -/
def renderBody (call : ApiCall) (vars : Object) : Except Fault CallBody :=
  match call.method == bodiless, call.body with
  | true, _ | _, .null => .ok .absent
  | false, .text template => .plain <$> renderTemplate vars template
  | false, value => .json <$> value.render vars

/-- Renders the values of headers. -/
def renderHeaders (vars : Object) :
    List (String × String) → Except Fault (List (String × String))
  | [] => .ok []
  | (name, template) :: rest => do
    let value ← renderTemplate vars template
    return (name, value) :: (← renderHeaders vars rest)

/-- The header that tells the type of the body. -/
def typeHeader : String × String := ("Content-Type", "application/json")

/-- Adds the type of the body to headers that do not tell it. -/
def withType (headers : List (String × String)) : CallBody → List (String × String)
  | .absent => headers
  | _ =>
    if headers.any fun (name, _) => toLowerText name == toLowerText typeHeader.1 then headers
    else headers ++ [typeHeader]

/-- Renders the templates of a call: its address, its headers and its body, in this order. -/
def render (call : ApiCall) (vars : Object) : Except Fault RenderedCall := do
  let url ← renderTemplate vars call.url
  let headers ← renderHeaders vars call.headers
  let body ← call.renderBody vars
  return ⟨call.method, url, withType headers body, body⟩

end ApiCall

namespace RenderedCall

/-- The headers as they are sent: names in lower case, in order. -/
def sentHeaders (headers : List (String × String)) : List (String × String) :=
  (headers.map fun (name, value) => (toLowerText name, value)).mergeSort fun a b =>
    decide (a.1 < b.1) || (a.1 == b.1 && decide (a.2 ≤ b.2))

/-- The request of a call. An address that names no service is a path from the root. -/
def request (call : RenderedCall) (timeout : Float) : Except CallError WebRequest := do
  let url ← requestUrl call.url
  let url := if url.isAbsolute then url else url.asRootPath
  checkHeaders call.headers
  let body ← call.body.text?
  return ⟨call.method, url.toText, sentHeaders call.headers, body, timeout⟩

/-- The answer of another service when none was arranged. -/
def standardAnswer (_ : Nat) : Answer := .response 200 "\x7b\x7d"

/-- Makes a call. -/
def perform (call : RenderedCall) (timeout : Float) (web : Line WebRequest) :
    Except CallError (Int × String) × Line WebRequest :=
  match call.request timeout with
  | .error error => (.error error, web)
  | .ok request =>
    let (answer, web) := web.ask standardAnswer request
    match answer.toResponse with
    | .error error => (.error error, web)
    | .ok response =>
      if startsWithText request.url "/" then (.error (.noScheme request.url), web)
      else (.ok response, web)

end RenderedCall

/-- The reason that is kept of a failed call; nothing is kept if the failure is not contained. -/
def CallError.kept? : CallError → Option String
  | .broken _ => none
  | .disconnected kind message => some (if message.isEmpty then kind else message)
  | .refused message => some (if message.isEmpty then "ValueError" else message)
  | error => some error.message

/-- Assigns parts of an answer one after the other, up to a path that cannot be followed. -/
def takeParts : List ResponseMapping → Env → Except Fault Unit × Env
  | [], env => (.ok (), env)
  | mapping :: rest, env =>
    match env.takePart mapping.variableName mapping.path with
    | .ok env => takeParts rest env
    | .error fault => (.error fault, env)

namespace Act

/-- Makes a call. -/
def perform (call : RenderedCall) (timeout : Float) :
    Act (Except CallError (Int × String)) := do
  let (result, web) := call.perform timeout (← get).outside.web
  modify fun scene => { scene with outside := { scene.outside with web } }
  return result

/-- Assigns parts of an answer to variables. -/
def takeAnswer (mappings : List ResponseMapping) (body : Value) : Act Unit := do
  let (result, env) := takeParts mappings ((← get).env.beside body)
  changeEnv fun _ => env.withoutGuest
  result

end Act

/-- Notes that a call failed. -/
def keepFailure (reason : String) : Act NodeResult := do
  Act.put errorVariable (.text reason)
  Act.put successVariable (.bool false)
  return ⟨.leave none, [(successVariable, .bool false), (errorVariable, .text reason)]⟩

/-- Keeps what is wanted of an answer. A body that is not JSON counts as an empty object. -/
def keepAnswer (mappings : List ResponseMapping) (status : Int) (body : String) :
    Act NodeResult := do
  Act.takeAnswer mappings ((readJson? body).getD (.object []))
  let success := Value.bool (isSuccessStatus status)
  Act.put statusVariable (.int status)
  Act.put successVariable success
  Act.changeEnv (·.remove errorVariable)
  return ⟨.leave none, [(statusVariable, .int status), (successVariable, success)]⟩

/-- Calls another service. -/
def callService (call : ApiCall) : Act NodeResult := do
  let rendered ← call.render (← Act.vars)
  let timeout ← MonadExcept.ofExcept (callTimeout call.timeoutMs)
  match ← Act.perform rendered timeout with
  | .ok (status, body) => keepAnswer call.mappings status body
  | .error error =>
    match error.kept? with
    | some reason => keepFailure reason
    | none => throw (.call error)

end ChatFlow

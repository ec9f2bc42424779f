import ChatFlow.Env
import ChatFlow.Gateway
import ChatFlow.Node.Result
import ChatFlow.Store.Chats
import ChatFlow.Template

/-!
# The scene of a node

What a node can read and change while it works: the variables of the walk, and what lies outside
the engine. A node that fails leaves the changes that it made before: messages that were sent stay
sent.
-/

namespace ChatFlow

/-- Whom a walk serves, and with which credentials. -/
structure Recipient where
  customerId : String
  channelId : Option String
  credentials : Credentials
  deriving DecidableEq, Repr

/-- A request to another service. Of the headers, those that the caller set. -/
structure WebRequest where
  method : String
  url : String
  headers : List (String × String)
  body : String
  timeout : Float
  deriving Repr

/-- What lies outside the engine: the clock, the messaging provider, other services, the picks of
chance that are still to come, and the messages on record. -/
structure Outside where
  clock : Clock
  provider : Line ProviderRequest
  web : Line WebRequest
  picks : List Int
  chats : Chats

/-- The variables of a walk and what lies outside. -/
structure Scene where
  env : Env
  outside : Outside

/-- Work on a scene that may fail. What was changed before a failure stays changed. -/
abbrev Act := ExceptT Failure (StateM Scene)

instance : MonadLift (Except Fault) Act where
  monadLift result := MonadExcept.ofExcept (result.mapError Failure.fault)

namespace Act

/-- The variables. -/
def vars : Act Object := return (← get).env.vars

/-- The time as nodes see it. -/
def time : Act ZonedMoment := return (← get).outside.clock.seen

/-- Changes the variables. -/
def changeEnv (change : Env → Env) : Act Unit :=
  modify fun scene => { scene with env := change scene.env }

/-- Assigns a value at a path. -/
def write (path : String) (value : Value) : Act Unit :=
  changeEnv (·.write path value)

/-- Assigns a variable. -/
def put (name : String) (value : Value) : Act Unit :=
  changeEnv (·.put name value)

/-- Renders a template with the variables. -/
def render (template : String) : Act String := do
  renderTemplate (← vars) template

/-- Assigns a value at a path and notes it under the path's text. -/
def assign (path : String) (value : Value) : Act NodeResult := do
  write path value
  return ⟨.leave none, [(path, value)]⟩

/-- Posts a payload to the provider. -/
def post (credentials : Credentials) (payload : Object) : Act Delivery := do
  let outside := (← get).outside
  let (result, provider) := postToProvider credentials payload outside.provider
  modify fun scene => { scene with outside := { scene.outside with provider } }
  MonadExcept.ofExcept result

/-- Puts a message on record. -/
def recordMessage (entry : ChatEntry) : Act Unit :=
  modify fun scene =>
    { scene with outside := { scene.outside with chats := scene.outside.chats.record entry } }

/-- Takes the next pick; when there are no more, zero. -/
def pick : Act Int := do
  let picks := (← get).outside.picks
  modify fun scene => { scene with outside := { scene.outside with picks := picks.tail } }
  return picks.headD 0

end Act

end ChatFlow

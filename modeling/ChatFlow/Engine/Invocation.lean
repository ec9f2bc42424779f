import ChatFlow.Engine.World
import ChatFlow.Inbound

/-!
# Invocations of the engine

The engine is invoked by a message (`handleInbound`), by the start of a flow (`startFlow`), and by a
wake-up call (`resumeTimer`). Each invocation reads an execution first and does its work with what
it read. The work writes nothing to the execution: it makes a `Checkpoint`, which is written once,
at the end (`submit`), and only if the execution is still in the version in which it was read. If
someone else has written it meanwhile, the outcome is a conflict and nothing of the work is kept.

`receive` is the part of `handleInbound` that comes after the reading, and `wake` that of
`resumeTimer`. `openFlow` is the part of `startFlow` that creates the execution, and `setOut` the
work that follows it.

A walk that fails leaves the execution as it was and one entry in its log.
-/

namespace ChatFlow

/-- A channel as the engine sees it. -/
structure ChannelAccess where
  id : Option String
  credentials : Credentials
  deriving DecidableEq, Repr

/-- The access to the channel of an id. -/
def Channels.access (channels : Channels) (id : Option String) : ChannelAccess :=
  ⟨id, channels.credentials id⟩

/-- The time that is left until a moment; nothing if there is no moment or it has passed. -/
def timeLeft (now : Moment) (resumeAt : Option Moment) : Option Span :=
  match resumeAt with
  | some moment => if moment.micros < now.micros then none else some (moment.since now)
  | none => none

/-- Whether an execution waits for a timer. -/
def Execution.waitsForTimer (execution : Execution) : Bool :=
  execution.status == .waiting && execution.waitingFor == some timerReason

/-- What an invocation writes at its end: changes to the execution that it read, entries for its
log, and what was done if they are written. -/
structure Checkpoint where
  held : Execution
  patch : Patch
  entries : List LogEntry
  action : Action
  deriving Repr

/-- What an invocation comes to: an answer, or something that is still to be written. -/
inductive Verdict where
  | answer (outcome : Outcome)
  | write (checkpoint : Checkpoint)
  deriving Repr

namespace Work

/-- Writes a checkpoint; a conflict if someone else was faster. An execution that waits for a timer
afterwards does so in a new version, for which a new wake-up call is needed. -/
def submit (checkpoint : Checkpoint) : Work Outcome := do
  match ← commit checkpoint.held checkpoint.patch checkpoint.entries with
  | none => return ⟨.conflict, some checkpoint.held.id, none⟩
  | some after =>
    if after.waitsForTimer then schedule after (timeLeft (← now) after.resumeAt)
    return ⟨checkpoint.action, some after.id, some after.status⟩

/-- Answers, after what is still to be written was written. -/
def conclude : Verdict → Work Outcome
  | .answer outcome => return outcome
  | .write checkpoint => submit checkpoint

/-- Makes a checkpoint of the end of a walk. -/
def settle (held : Execution) (action : Action) (walk : Walk) (before : List LogEntry) :
    Work Checkpoint := do
  modify fun world => { world with outside := walk.scene.outside }
  let vars := walk.scene.env.vars
  let entries := before ++ walk.entries
  match walk.ending with
  | .failed node cause =>
    log held.id (node.entry [("error", .text cause.message)])
    throw (.node node.id node.type cause)
  | .parked node reason resumeAt =>
    let resumeAt ← (resumeAt.mapM (·.instant) : Except Fault (Option Moment))
    let patch : Patch :=
      { status := some .waiting, waitingFor := some (some reason),
        currentNode := some (some node), vars := some vars,
        resumeAt := some resumeAt }
    return ⟨held, patch, entries, action⟩
  | .completed last =>
    let patch : Patch :=
      { status := some .completed, waitingFor := some none, resumeAt := some none,
        currentNode := some last, vars := some vars,
        completedAt := some (some (← now)) }
    return ⟨held, patch, entries, action⟩

/-- Walks on with an execution. -/
def run (graph : FlowGraph) (held : Execution) (credentials : Credentials) (env : Env)
    (next : Option String) (before : List LogEntry) (action : Action) : Work Checkpoint := do
  let world ← get
  let recipient : Recipient := ⟨held.customerId, held.channelId, credentials⟩
  let walk := walkFrom graph recipient (stepsOfLimit world.stepLimit) next held.currentNode
    ⟨env, world.outside⟩
  settle held action walk before

end Work

/-- The variable that takes the reply to a node; nodes of unknown types take none. -/
def FlowNode.replyVariable? (node : FlowNode) : Except Failure (Option String) :=
  match NodeType.ofName? node.type with
  | none => .ok none
  | some type =>
    match type.configure node.config with
    | .ok config => .ok config.replyVariable?
    | .error report => .error (.config report)

/-- The target of the first edge out of a node. -/
def FlowGraph.firstTarget? (graph : FlowGraph) (id : String) : Option String :=
  (graph.firstEdge? id).map (·.target)

/-- The variables of an execution after a message was seen. -/
def Execution.after (held : Execution) (message : InboundMessage) : Object :=
  held.vars.update message.observed

/-- An execution that was created for a flow, with the trigger at which it stands. -/
structure Departure where
  graph : FlowGraph
  trigger : FlowNode
  held : Execution

/-- Binds the reply to a variable. What the message set already is the same object. -/
def bindReply (env : Env) (name? : Option String) (text : Value) : Env :=
  match name? with
  | some name => env.writeSame name text [.field "last_message"]
  | none => env

namespace Work

/-- Goes on with an execution that waits for a reply: past the node that asked, by the first edge
out of it. -/
def resume (held : Execution) (credentials : Credentials) (message : InboundMessage) :
    Work Checkpoint := do
  let graph ← graphOf held.flowId
  let env := Env.ofVariables (held.after message)
  match held.currentNode.bind graph.node? with
  | none => run graph held credentials env none [] .resumed
  | some node =>
    let reply ← MonadExcept.ofExcept node.replyVariable?
    let entry := node.entry [("resumed", .bool true), ("reply", message.text)]
    run graph held credentials (bindReply env reply message.text) (graph.firstTarget? node.id)
      [entry] .resumed

/-- Goes on with a running execution, whose last walk failed: at the node where it stands, or past
it if it is the trigger. -/
def restart (held : Execution) (credentials : Credentials) (message : InboundMessage) :
    Work Checkpoint := do
  let graph ← graphOf held.flowId
  let next := (held.currentNode.bind graph.node?).bind fun node =>
    if node.type == "trigger" then graph.firstTarget? node.id else some node.id
  run graph held credentials (.ofVariables (held.after message)) next [] .resumed

/-- Keeps a message that came while an execution waits for a timer. -/
def recordDuringTimer (held : Execution) (message : InboundMessage) : Checkpoint :=
  let entry : LogEntry :=
    ⟨held.currentNode, some "delay", .object [("ignored_message", message.text)]⟩
  ⟨held, { vars := some (held.after message) }, [entry], .ignored⟩

/-- Hands a message to an active execution. -/
def continueWith (held : Execution) (credentials : Credentials) (message : InboundMessage) :
    Work Checkpoint :=
  if held.status = .waiting then
    if held.waitingFor = some timerReason then return recordDuringTimer held message
    else resume held credentials message
  else restart held credentials message

/-- Creates an execution of a flow at its trigger; nothing if the customer has an active one
already. -/
def openFlow (flow : String) (channel : Option String) (customer : String)
    (message : InboundMessage) (initial : Object) : Work (Option Departure) := do
  let graph ← graphOf flow
  let some trigger := graph.trigger? | throw (.noTrigger flow)
  let vars := initial.update message.observed
  let (created, executions) :=
    (← get).executions.create flow customer channel (some trigger.id) vars
  modify fun world => { world with executions }
  return created.map (⟨graph, trigger, ·⟩)

/-- Walks from the trigger with the execution that was created. -/
def setOut (departure : Departure) (credentials : Credentials) (message : InboundMessage) :
    Work Checkpoint :=
  let ⟨graph, trigger, held⟩ := departure
  let entry := trigger.entry [("triggered", .bool true), ("message", message.text)]
  run graph held credentials (.ofVariables held.vars) (graph.firstTarget? trigger.id) [entry]
    .started

/-- Starts a flow. If the customer has an active execution already, it gets the message if it waits
for one. -/
def startFlow (flow : String) (channel : ChannelAccess) (customer : String)
    (message : InboundMessage) (initial : Object) : Work Outcome := do
  match ← openFlow flow channel.id customer message initial with
  | some departure => submit (← setOut departure channel.credentials message)
  | none =>
    match (← get).executions.findActive? customer channel.id with
    | none => return ⟨.conflict, none, none⟩
    | some held =>
      if held.status = .waiting then submit (← continueWith held channel.credentials message)
      else return ⟨.conflict, some held.id, some held.status⟩

/-- The flow that a message starts on a channel. -/
def chooseFlow (channel : Option String) (message : InboundMessage) : Work (Option Flow) := do
  MonadExcept.ofExcept (firstStarted? message.text ((← get).flows.offered channel))

/-- Handles a message, after the customer's active execution has been read. -/
def receive (found : Option Execution) (channel : ChannelAccess) (customer : String)
    (message : InboundMessage) (initial : Object) : Work Outcome := do
  match found with
  | some held => submit (← continueWith held channel.credentials message)
  | none =>
    match ← chooseFlow channel.id message with
    | none => return ⟨.noMatch, none, none⟩
    | some flow => startFlow flow.id channel customer message initial

/-- Handles a message: it goes to the customer's active execution, or starts a flow. -/
def handleInbound (channel : ChannelAccess) (customer : String) (message : InboundMessage)
    (initial : Object) : Work Outcome := do
  let found := (← get).executions.findActive? customer channel.id
  receive found channel customer message initial

/-- Goes on with an execution whose timer is due. -/
def resumeDue (held : Execution) : Work Checkpoint := do
  let graph ← graphOf held.flowId
  let credentials := (← get).channels.credentials held.channelId
  let entry : LogEntry := ⟨held.currentNode, some "delay", .object [("timer_fired", .bool true)]⟩
  let next := (held.currentNode.bind (graph.nextEdge? · none)).map (·.target)
  run graph held credentials (.ofVariables held.vars) next [entry] .resumed

/-- Whether the time of an execution that waits has not come. -/
def tooEarly (now : Moment) (resumeAt : Option Moment) : Bool :=
  resumeAt.any (now.micros < ·.micros)

/-- Handles a wake-up call, after the execution has been read. A call for an execution that has
moved on is dropped, and one that comes too early is asked for again. -/
def wake (found : Option Execution) (id : String) (version : Option Int) : Work Verdict := do
  match found with
  | none => return .answer ⟨.ignored, some id, none⟩
  | some held =>
    let ignored := Verdict.answer ⟨.ignored, some id, some held.status⟩
    if !held.waitsForTimer || version.any (· != (held.version : Int)) then return ignored
    else
      let now ← now
      if tooEarly now held.resumeAt then
        schedule held (timeLeft now held.resumeAt)
        return ignored
      else return .write (← resumeDue held)

/-- Handles a wake-up call for the execution of an id. -/
def resumeTimer (id : String) (version : Option Int) : Work Outcome := do
  let found := (← get).executions.get? id
  conclude (← wake found id version)

end Work

end ChatFlow

import ChatFlow.Engine.Walk
import ChatFlow.Store.Channels
import ChatFlow.Store.Executions
import ChatFlow.Store.Flows

/-!
# The world of the engine

All that lasts from one message to the next: what is stored, what lies outside, and the wake-up
calls that were asked for.
-/

namespace ChatFlow

/-- A call that is to wake an execution which waits in a given version. Without a delay it is due at
once. -/
structure Wakeup where
  execution : String
  version : Nat
  delay : Option Span
  deriving DecidableEq, Repr

/-- The service that wakes executions: whether it takes calls, and the calls it took, in order. -/
structure Timers where
  accepts : Bool
  wakeups : List Wakeup
  deriving Repr

/-- All that lasts from one message to the next. -/
structure World where
  channels : Channels
  flows : Flows
  executions : Executions
  /-- The ids of the messages that were handled. -/
  handled : List String
  outside : Outside
  timers : Timers
  /-- The limit of the steps of a walk. -/
  stepLimit : Int

/-- Work on the world that may fail. What was changed before a failure stays changed. -/
abbrev Work := ExceptT Failure (StateM World)

instance : MonadLift (Except Fault) Work where
  monadLift result := MonadExcept.ofExcept (result.mapError Failure.fault)

/-- What an invocation of the engine did. -/
inductive Action where
  | started
  | resumed
  /-- The message or the call was not what the execution waits for. -/
  | ignored
  /-- No flow is started by the message. -/
  | noMatch
  /-- Someone else was faster. -/
  | conflict
  deriving DecidableEq, Repr

/-- The name of an action. -/
def Action.name : Action → String
  | .started => "started"
  | .resumed => "resumed"
  | .ignored => "ignored"
  | .noMatch => "no_match"
  | .conflict => "conflict"

/-- What came of an invocation: what was done, to which execution, and how far it came. -/
structure Outcome where
  action : Action
  execution : Option String
  status : Option ExecutionStatus
  deriving DecidableEq, Repr

namespace Work

/-- The present time. -/
def now : Work Moment := return (← get).outside.clock.now

/-- The graph of a flow. -/
def graphOf (flow : String) : Work FlowGraph := do
  match (← get).flows.load? flow with
  | some graph => return graph
  | none => throw (.unknownFlow flow)

/-- Writes an execution that was read before; the answer is nothing if someone else was faster. -/
def commit (held : Execution) (patch : Patch) (entries : List LogEntry) :
    Work (Option Execution) := do
  match (← get).executions.update? held patch entries with
  | some (after, executions) =>
    modify fun world => { world with executions }
    return some after
  | none => return none

/-- Adds an entry to the log of an execution. -/
def log (execution : String) (entry : LogEntry) : Work Unit :=
  modify fun world => { world with executions := world.executions.appendLog execution entry }

/-- Asks for a wake-up call. If the service does not take it, the execution stays parked. -/
def schedule (execution : Execution) (delay : Option Span) : Work Unit :=
  modify fun world =>
    if world.timers.accepts then
      { world with timers := { world.timers with
        wakeups := world.timers.wakeups ++ [⟨execution.id, execution.version, delay⟩] } }
    else world

end Work

end ChatFlow

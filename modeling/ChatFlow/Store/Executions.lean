import ChatFlow.Time.Moment
import ChatFlow.Value.Basic

/-!
# Executions

An execution is a customer's way through a flow. Between messages nothing else is kept of it. It is
written only by someone who read it in its present version (`Executions.update?`). A write raises
the version, so of several writers that read the same version one succeeds and the others change
nothing. A customer has at most one active execution on a channel (`Executions.create`).

Log entries are kept in the order in which they were written.
-/

namespace ChatFlow

/-- How far an execution has come. -/
inductive ExecutionStatus where
  | running
  | waiting
  | completed
  /-- A status that was set from outside. -/
  | other (name : String)
  deriving DecidableEq, Repr

namespace ExecutionStatus

/-- The name of a status. -/
def name : ExecutionStatus → String
  | .running => "running"
  | .waiting => "waiting"
  | .completed => "completed"
  | .other name => name

/-- The status of a name. -/
def ofName : String → ExecutionStatus
  | "running" => .running
  | "waiting" => .waiting
  | "completed" => .completed
  | name => .other name

/-- Whether an execution of the status can still go on. -/
def isActive : ExecutionStatus → Bool
  | .running | .waiting => true
  | .completed | .other _ => false

end ExecutionStatus

/-- A customer's way through a flow. -/
structure Execution where
  id : String
  flowId : String
  customerId : String
  channelId : Option String
  currentNode : Option String
  status : ExecutionStatus
  /-- What a waiting execution waits for. -/
  waitingFor : Option String
  vars : Object
  version : Nat
  /-- When an execution that waits for a timer may go on. -/
  resumeAt : Option Moment
  completedAt : Option Moment
  deriving Repr

/-- Changes to an execution: the fields that get a new value. -/
structure Patch where
  status : Option ExecutionStatus := none
  waitingFor : Option (Option String) := none
  currentNode : Option (Option String) := none
  vars : Option Object := none
  resumeAt : Option (Option Moment) := none
  completedAt : Option (Option Moment) := none
  deriving Repr

/-- The execution after changes, one version later. -/
def Patch.apply (patch : Patch) (execution : Execution) : Execution :=
  { execution with
    status := patch.status.getD execution.status
    waitingFor := patch.waitingFor.getD execution.waitingFor
    currentNode := patch.currentNode.getD execution.currentNode
    vars := patch.vars.getD execution.vars
    resumeAt := patch.resumeAt.getD execution.resumeAt
    completedAt := patch.completedAt.getD execution.completedAt
    version := execution.version + 1 }

/-- An entry of the log of an execution. -/
structure LogEntry where
  node : Option String
  type : Option String
  result : Value
  deriving Repr

/-- The executions, in the order in which they were created, and their logs. -/
structure Executions where
  rows : List Execution
  logs : List (String × LogEntry)
  /-- How often an execution was to be created. -/
  attempts : Nat
  deriving Repr

namespace Executions

/-- No executions. -/
def empty : Executions := ⟨[], [], 0⟩

/-- The execution of an id. -/
def get? (store : Executions) (id : String) : Option Execution :=
  store.rows.find? (·.id == id)

/-- Whether an execution is an active one of a customer on a channel. -/
def isActiveOf (customer : String) (channel : Option String) (execution : Execution) : Bool :=
  execution.customerId == customer && execution.channelId == channel && execution.status.isActive

/-- The active execution of a customer on a channel, the latest if there are several. -/
def findActive? (store : Executions) (customer : String) (channel : Option String) :
    Option Execution :=
  store.rows.reverse.find? (isActiveOf customer channel)

/-- Whether a further active execution of a customer on a channel may be created. Executions without
a channel do not stand in each other's way. -/
def admits (store : Executions) (customer : String) (channel : Option String) : Bool :=
  channel.isNone || (store.findActive? customer channel).isNone

/-- The id of the execution of an attempt. -/
def idOf (attempt : Nat) : String := "exec-" ++ decimalText attempt

/-- Creates a running execution at a node, unless the customer has an active one on the channel. The
attempt counts in either case. -/
def create (store : Executions) (flow customer : String) (channel node : Option String)
    (vars : Object) : Option Execution × Executions :=
  let attempts := store.attempts + 1
  let execution : Execution :=
    ⟨idOf attempts, flow, customer, channel, node, .running, none, vars, 1, none, none⟩
  if store.admits customer channel then
    (some execution, { store with rows := store.rows ++ [execution], attempts })
  else (none, { store with attempts })

/-- Whether an execution is a given one in the version in which it was read. -/
def isHeld (held execution : Execution) : Bool :=
  execution.id == held.id && execution.version == held.version

/-- Changes an execution that was read before, and adds entries to its log. If the execution has
changed since it was read, nothing is written. -/
def update? (store : Executions) (held : Execution) (patch : Patch) (entries : List LogEntry) :
    Option (Execution × Executions) :=
  if store.rows.any (isHeld held) then
    some (patch.apply held,
      { store with
        rows := store.rows.map fun row => if isHeld held row then patch.apply row else row
        logs := store.logs ++ entries.map (held.id, ·) })
  else none

/-- Adds an entry to the log of an execution. -/
def appendLog (store : Executions) (id : String) (entry : LogEntry) : Executions :=
  { store with logs := store.logs ++ [(id, entry)] }

/-- The log of an execution, oldest entry first. -/
def logOf (store : Executions) (id : String) : List LogEntry :=
  (store.logs.filter (·.1 == id)).map (·.2)

end Executions

end ChatFlow

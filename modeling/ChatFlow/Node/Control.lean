import ChatFlow.Condition
import ChatFlow.Config.Node
import ChatFlow.Node.Scene

/-!
# Nodes that steer a walk

Conditions, assignments, delays and loops. A condition is left by the handle of the first rule that
holds. A loop counts its rounds in a variable of its own, which is there only while the loop runs,
and is left by `complete` in its last round and by `loop` in every other.
-/

namespace ChatFlow

/-- The first rule that holds. -/
def firstRule? (vars : Object) : List ConditionRule → Except Fault (Option ConditionRule)
  | [] => .ok none
  | rule :: rest => do
    if ← conditionHolds rule.variableName rule.operator rule.expected vars then
      return some rule
    else firstRule? vars rest

/-- The handle that stands in for a default handle that is empty. -/
def falseHandle : String := "false"

/-- Leaves by the handle of the first rule that holds, or by the default handle. -/
def branch (rules : List ConditionRule) (defaultHandle : String) : Act NodeResult := do
  match ← firstRule? (← Act.vars) rules with
  | some rule => return ⟨.leave rule.handle, [("matched", .text rule.variableName)]⟩
  | none =>
    let handle := if defaultHandle.isEmpty then falseHandle else defaultHandle
    return ⟨.leave handle, [("matched", .null)]⟩

/-- The value that an assignment assigns. A copied variable shares nothing with its source. -/
def Assignment.newValue (assignment : Assignment) (vars : Object) : Except Fault Value :=
  if assignment.copiesVariable then vars.read assignment.value.toText
  else assignment.value.render vars

/-- Makes assignments one after the other. -/
def assignAll (assignments : List Assignment) : Act NodeResult := do
  assignments.forM fun assignment => do
    Act.write assignment.variableName (← assignment.newValue (← Act.vars))
  return ⟨.leave none, [("assigned", .list (assignments.map (.text ·.variableName)))]⟩

/-! ## Delays -/

/-- The seconds of a delay: one second if none are given. -/
def delaySeconds (seconds : Value) : Except Fault Value := do
  let seconds ← seconds.toNumber
  return if seconds ≤ 0 then .int 1 else .float seconds

/-- Waits for a moment some seconds from now. -/
def waitSeconds (configured : Value) : Act NodeResult := do
  let seconds ← delaySeconds configured
  let span ← Span.ofUnits microsPerSecond (← seconds.toNumber)
  let resumeAt ← (← Act.time).add span
  return ⟨.wait timerReason (some resumeAt), [("delay_seconds", seconds)]⟩

/-! ## Loops -/

/-- The variable in which a loop counts its rounds. -/
def loopCounter (id : String) : String := "_loop_" ++ id

/-- The handle by which a loop goes into another round. -/
def loopHandle : String := "loop"

/-- The handle by which a loop is left. -/
def completeHandle : String := "complete"

/-- The largest size up to which every whole number is a float. -/
def exactFloatSize : Nat := Nat.pow 2 53

/-- The whole part of the number of a value. -/
def Value.toWhole (value : Value) : Except Fault Int :=
  match value with
  | .int n =>
    if n.natAbs ≤ exactFloatSize then .ok n
    else do wholePart Binary.truncate (← value.toNumber)
  | _ => do wholePart Binary.truncate (← value.toNumber)

/-- The item of a round and its place in the list, counted from the end for rounds below the first.
Rounds past the end have no item. -/
def roundItem? (items : List Value) (round : Int) : Except Failure (Option (Nat × Value)) :=
  if items.length < round then .ok none
  else
    let index := if round < 1 then round - 1 + items.length else round - 1
    match index with
    | .ofNat index => .ok (items[index]?.map (index, ·))
    | .negSucc _ => .error .itemOutOfRange

/-- The list at a path; anything else counts as empty. -/
def listAt (vars : Object) (path : String) : Except Fault (List Value) :=
  return ((← vars.read path).list?).getD []

/-- Hands out the item of a round, which is from then on in its list and in the item's variable. -/
def handOutItem (collection itemVariable : String) (items : List Value) (round : Int) :
    Act Unit := do
  match ← roundItem? items round with
  | some (index, item) =>
    Act.changeEnv fun env =>
      env.writeSame itemVariable item (env.placeOf collection ++ [.item index])
  | none => return

/-- Counts a round, and leaves the loop if it was the last. -/
def countRound (id : String) (round last : Int) : Act NodeResult := do
  let counter := loopCounter id
  Act.put counter (.int round)
  Act.put "loop_index" (.int round)
  let notes := [("iteration", Value.int round)]
  if round < last then return ⟨.leave loopHandle, notes⟩
  else
    Act.changeEnv (·.remove counter)
    return ⟨.leave completeHandle, notes⟩

/-- A round of a loop. -/
def runLoop (id : String) (plan : LoopPlan) : Act NodeResult := do
  let vars ← Act.vars
  let round := (← ((vars.field? (loopCounter id)).getD (.int 0)).toWhole) + 1
  match plan.collection with
  | none => countRound id round plan.maxIterations
  | some collection =>
    let items ← listAt vars collection
    if let some itemVariable := plan.itemVariable then
      handOutItem collection itemVariable items round
    countRound id round (min plan.maxIterations items.length)

end ChatFlow

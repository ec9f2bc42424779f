import ChatFlow.Proofs.Node.Conduct

/-!
# Nodes that ask nothing of anyone

Most kinds of nodes do plain work: they read and change the variables, look at the clock and take
picks, one after the other (`Act.Plain`). They ask nothing of the provider and of other services,
and put nothing on record. What is to be shown of all such work is shown by induction on it: one
case for each thing that it can do, and one for doing one thing after the other. Only a node that
sends a message, and one that calls another service, do more.
-/

namespace ChatFlow

namespace Act

variable {α β : Type}

/-- Whether work reads and changes nothing but the variables. -/
def OnVariables (act : Act α) : Prop :=
  ∃ work : Env → Except Failure α × Env, ∀ scene : Scene,
    act.run.run scene = ((work scene.env).1, { scene with env := (work scene.env).2 })

/-- Work that asks nothing of the provider and of other services, and puts nothing on record. -/
inductive Plain : {α : Type} → Act α → Prop where
  | onVariables {α : Type} {act : Act α} (h : act.OnVariables) : Plain act
  | time : Plain time
  | pick : Plain pick
  | bind {α β : Type} {act : Act α} {next : α → Act β} (h : Plain act)
      (hnext : ∀ a, Plain (next a)) : Plain (act >>= next)

theorem plain_pure (a : α) : (pure a : Act α).Plain :=
  .onVariables ⟨fun env => (.ok a, env), fun _ => rfl⟩

theorem plain_throw (failure : Failure) : (throw failure : Act α).Plain :=
  .onVariables ⟨fun env => (.error failure, env), fun _ => rfl⟩

theorem plain_ofExcept (result : Except Failure α) :
    (MonadExcept.ofExcept result : Act α).Plain := by
  cases result with
  | error failure => exact plain_throw failure
  | ok a => exact plain_pure a

theorem plain_lift (result : Except Fault α) : (liftM result : Act α).Plain :=
  plain_ofExcept (result.mapError .fault)

theorem plain_liftFailure (result : Except Failure α) : (liftM result : Act α).Plain := by
  cases result with
  | error failure => exact plain_throw failure
  | ok a => exact plain_pure a

theorem plain_vars : vars.Plain :=
  .onVariables ⟨fun env => (.ok env.vars, env), fun _ => rfl⟩

theorem plain_changeEnv (change : Env → Env) : (changeEnv change).Plain :=
  .onVariables ⟨fun env => (.ok (), change env), fun _ => rfl⟩

theorem plain_assign (path : String) (value : Value) : (assign path value).Plain :=
  (plain_changeEnv _).bind fun _ => plain_pure _

end Act

/-! ## The kinds of nodes -/

open Act

theorem branch_plain (rules : List ConditionRule) (defaultHandle : String) :
    (branch rules defaultHandle).Plain := by
  refine plain_vars.bind fun vars => (plain_lift _).bind fun rule? => ?_
  cases rule? <;> exact plain_pure _

theorem assignAll_plain (assignments : List Assignment) : (assignAll assignments).Plain := by
  refine Plain.bind ?_ fun _ => plain_pure _
  induction assignments with
  | nil => exact plain_pure _
  | cons assignment rest ih =>
    refine Plain.bind ?_ fun _ => ih
    exact plain_vars.bind fun _ => (plain_lift _).bind fun _ => plain_changeEnv _

theorem waitSeconds_plain (configured : Value) : (waitSeconds configured).Plain := by
  refine (plain_lift _).bind fun seconds => (plain_lift _).bind fun number => ?_
  refine (plain_lift _).bind fun span => Plain.time.bind fun time => ?_
  exact (plain_lift _).bind fun resumeAt => plain_pure _

theorem countRound_plain (id : String) (round last : Int) : (countRound id round last).Plain := by
  refine (plain_changeEnv _).bind fun _ => (plain_changeEnv _).bind fun _ => ?_
  dsimp only
  split
  · exact plain_pure _
  · exact (plain_changeEnv _).bind fun _ => plain_pure _

theorem handOutItem_plain (collection itemVariable : String) (items : List Value) (round : Int) :
    (handOutItem collection itemVariable items round).Plain := by
  refine (plain_liftFailure _).bind fun found? => ?_
  cases found? with
  | none => exact plain_pure _
  | some found => exact plain_changeEnv _

theorem runLoop_plain (id : String) (plan : LoopPlan) : (runLoop id plan).Plain := by
  refine plain_vars.bind fun vars => (plain_lift _).bind fun whole => ?_
  dsimp only
  split
  · exact countRound_plain id _ _
  · refine (plain_lift _).bind fun items => ?_
    split
    · exact (handOutItem_plain _ _ _ _).bind fun _ => countRound_plain id _ _
    · exact countRound_plain id _ _

theorem takeName_plain (recipient : Recipient) (variableName : String) :
    (takeName recipient variableName).Plain := by
  refine plain_vars.bind fun vars => ?_
  dsimp only
  split
  · exact (plain_changeEnv _).bind fun _ => plain_pure _
  · exact plain_assign _ _

theorem takeTimestamp_plain (variableName : String) : (takeTimestamp variableName).Plain := by
  refine plain_vars.bind fun vars => (plain_lift _).bind fun time? => ?_
  cases time? with
  | none => exact Plain.time.bind fun time => plain_assign _ _
  | some time => exact plain_assign _ _

theorem chooseAtRandom_plain (choices : List String) (variableName : Option String) :
    (chooseAtRandom choices variableName).Plain := by
  refine plain_vars.bind fun vars => (plain_lift _).bind fun rendered => ?_
  split
  · exact plain_pure _
  · refine Plain.pick.bind fun picked => ?_
    cases choiceAt? rendered picked with
    | none => exact plain_pure _
    | some choice =>
      refine Plain.bind ?_ fun _ => plain_pure _
      cases variableName with
      | none => exact plain_pure _
      | some name => exact (plain_changeEnv _ : (write name (.text choice)).Plain)

theorem computeInto_plain (variableName : String) (compute : Object → Except Fault Value) :
    (computeInto variableName compute).Plain :=
  plain_vars.bind fun _ => (plain_lift _).bind fun _ => plain_assign _ _

/-- Parts of an answer are taken into the variables, with the answer beside them. -/
theorem takeAnswer_plain (mappings : List ResponseMapping) (body : Value) :
    (takeAnswer mappings body).Plain := by
  refine .onVariables ⟨fun env => ((takeParts mappings (env.beside body)).1.mapError .fault,
    (takeParts mappings (env.beside body)).2.withoutGuest), fun scene => ?_⟩
  show (liftM (takeParts mappings (scene.env.beside body)).1 : Act Unit).run.run _ = _
  dsimp only
  generalize takeParts mappings (scene.env.beside body) = taken
  obtain ⟨result, env⟩ := taken
  cases result <;> rfl

theorem keepAnswer_plain (mappings : List ResponseMapping) (status : Int) (body : String) :
    (keepAnswer mappings status body).Plain := by
  refine (takeAnswer_plain mappings _).bind fun _ => (plain_changeEnv _).bind fun _ => ?_
  exact (plain_changeEnv _).bind fun _ => (plain_changeEnv _).bind fun _ => plain_pure _

theorem keepFailure_plain (reason : String) : (keepFailure reason).Plain :=
  (plain_changeEnv _).bind fun _ => (plain_changeEnv _).bind fun _ => plain_pure _

/-- What is left of a call when it is known what came of it. -/
def settleCall (mappings : List ResponseMapping) (result : Except CallError (Int × String)) :
    Act NodeResult :=
  match result with
  | .ok (status, body) => keepAnswer mappings status body
  | .error error =>
    match error.kept? with
    | some reason => keepFailure reason
    | none => throw (.call error)

theorem settleCall_plain (mappings : List ResponseMapping)
    (result : Except CallError (Int × String)) : (settleCall mappings result).Plain := by
  cases result with
  | ok response => exact keepAnswer_plain mappings response.1 response.2
  | error error =>
    unfold settleCall
    dsimp only
    cases error.kept? with
    | some reason => exact keepFailure_plain reason
    | none => exact plain_throw _

theorem callService_eq (call : ApiCall) :
    callService call = (do
      let rendered ← call.render (← Act.vars)
      let timeout ← MonadExcept.ofExcept (callTimeout call.timeoutMs)
      settleCall call.mappings (← Act.perform rendered timeout)) := rfl

/-- What a node leaves behind that sent a message. -/
def Delivery.result (delivery : Delivery) : NodeResult :=
  ⟨.leave none, [("sent", .bool delivery.ok), ("provider_message_id", delivery.providerMessageId),
    ("error", delivery.error)]⟩

/-- What is left of sending a message when it is known what became of it. -/
def reportDelivery (recipient : Recipient) (message : OutboundMessage) (delivery : Delivery) :
    Act NodeResult := do
  if delivery.ok then
    Act.recordMessage (message.entry recipient delivery.providerMessageId)
  return delivery.result

/-- The messages on record when it is known what became of one more: it is among them if the
provider took it. -/
def Chats.withDelivered (chats : Chats) (recipient : Recipient) (message : OutboundMessage)
    (delivery : Delivery) : Chats :=
  if delivery.ok then chats.record (message.entry recipient delivery.providerMessageId) else chats

/-- Reporting what became of a message changes only the messages on record. -/
theorem run_reportDelivery (recipient : Recipient) (message : OutboundMessage)
    (delivery : Delivery) (scene : Scene) :
    (reportDelivery recipient message delivery).run.run scene =
      (.ok delivery.result, { scene with outside := { scene.outside with
        chats := scene.outside.chats.withDelivered recipient message delivery } }) := by
  unfold reportDelivery Chats.withDelivered
  split
  · rfl
  · rfl

/-- Posting changes only the line to the provider. -/
theorem Act.run_post (credentials : Credentials) (payload : Object) (scene : Scene) :
    (post credentials payload).run.run scene =
      ((postToProvider credentials payload scene.outside.provider).1,
        { scene with outside := { scene.outside with
          provider := (postToProvider credentials payload scene.outside.provider).2 } }) := by
  show (MonadExcept.ofExcept (postToProvider credentials payload
    scene.outside.provider).1 : Act Delivery).run.run _ = _
  rw [run_ofExcept]
  rfl

theorem sendMessage_eq (recipient : Recipient) (template : OutboundMessage) :
    sendMessage recipient template = (do
      let message ← template.render (← Act.vars)
      reportDelivery recipient message
        (← Act.post recipient.credentials (message.payload recipient.customerId))) := rfl

/-- What a node does: it sends a message, it calls another service, or it does plain work. -/
inductive NodeConfig.Does (recipient : Recipient) : NodeConfig → Act NodeResult → Prop where
  | send (message : OutboundMessage) :
      Does recipient (.send message) (sendMessage recipient message)
  | call (call : ApiCall) : Does recipient (.apiCall call) (callService call)
  | plain {config : NodeConfig} {act : Act NodeResult} (h : act.Plain) : Does recipient config act

/-- **Only messages and calls are more than plain work.** -/
theorem NodeConfig.act_does (recipient : Recipient) (id : String) (config : NodeConfig) :
    config.Does recipient (config.act recipient id) := by
  cases config with
  | send message => exact .send message
  | apiCall call => exact .call call
  | trigger | markAsRead => exact .plain (plain_pure _)
  | waitForReply expected variableName => exact .plain (plain_pure _)
  | finish kind => exact .plain (plain_pure _)
  | condition rules defaultHandle => exact .plain (branch_plain rules defaultHandle)
  | setVariable assignments => exact .plain (assignAll_plain assignments)
  | delay seconds => exact .plain (waitSeconds_plain seconds)
  | loop plan => exact .plain (runLoop_plain id plan)
  | customerPhone variableName format => exact .plain (plain_assign _ _)
  | customerName variableName => exact .plain (takeName_plain recipient variableName)
  | customerCountry variableName => exact .plain (plain_assign _ _)
  | messageTimestamp variableName => exact .plain (takeTimestamp_plain variableName)
  | formatPhone source variableName format => exact .plain (computeInto_plain variableName _)
  | randomChoice choices variableName => exact .plain (chooseAtRandom_plain choices variableName)
  | dateTime variableName operation format =>
    exact .plain (Plain.time.bind fun time => computeInto_plain variableName _)
  | math variableName operation left right => exact .plain (computeInto_plain variableName _)
  | text variableName operation template => exact .plain (computeInto_plain variableName _)

end ChatFlow

import ChatFlow.Proofs.Engine.Draft

/-!
# The course of an invocation

`Invocation` lists what the engine can be asked to do, and `Performed` all that can come of it: the
executions are not touched, or a wake-up call is asked for again, or the invocation carries an
execution on (`Carried`), which is one of the store or one that it created. `perform_performed` is
the only place where invocations are taken apart; what holds of every invocation follows from it by
cases.
-/

namespace ChatFlow

/-- What the engine can be asked to do. -/
inductive Invocation where
  | inbound (channel : ChannelAccess) (customer : String) (message : InboundMessage)
      (initial : Object)
  | start (flow : String) (channel : ChannelAccess) (customer : String) (message : InboundMessage)
      (initial : Object)
  | timer (id : String) (version : Option Int)

namespace Invocation

/-- The engine's work for an invocation. -/
def perform : Invocation → Work Outcome
  | .inbound channel customer message initial =>
    Work.handleInbound channel customer message initial
  | .start flow channel customer message initial =>
    Work.startFlow flow channel customer message initial
  | .timer id version => Work.resumeTimer id version

/-- The executions that an invocation may go on with. -/
def Concerns (row : Execution) : Invocation → Prop
  | .inbound channel customer _ _ | .start _ channel customer _ _ =>
    row.customerId = customer ∧ row.channelId = channel.id
  | .timer id _ => row.id = id

/-- A wake-up call is dropped if its execution does not wait for a timer in the version of the
call. -/
def Drops (w : World) : Invocation → Prop
  | .inbound .. | .start .. => True
  | .timer id version => ∀ held, w.executions.get? id = some held → held.waitsForTimer = true →
      version.any (· != (held.version : Int)) = true

end Invocation

/-- The row with which the start of a flow begins: running at the flow's trigger, with the initial
variables and what the message tells. -/
def World.Opens (w : World) (flow : String) (channel : Option String) (customer : String)
    (message : InboundMessage) (initial : Object) (row : Execution) : Prop :=
  ∃ graph trigger, w.flows.load? flow = some graph ∧ graph.trigger? = some trigger ∧
    w.executions.admits customer channel = true ∧
    row = w.executions.newRow flow customer channel (some trigger.id)
      (initial.update message.observed)

/-- The flow that an invocation may start, and for whom. A message starts the first flow that its
text starts. -/
inductive Invocation.Starts (w : World) : Invocation → (flow : String) → ChannelAccess →
    (customer : String) → InboundMessage → (initial : Object) → Prop where
  | inbound {channel : ChannelAccess} {customer : String} {message : InboundMessage}
      {initial : Object} {flow : Flow}
      (h : firstStarted? message.text (w.flows.offered channel.id) = .ok (some flow)) :
      Starts w (.inbound channel customer message initial) flow.id channel customer message initial
  | start {flow : String} {channel : ChannelAccess} {customer : String}
      {message : InboundMessage} {initial : Object} :
      Starts w (.start flow channel customer message initial) flow channel customer message initial

/-- The rows that an invocation may add to a store: those of a flow that it starts. -/
def Invocation.Opens (w : World) (row : Execution) (call : Invocation) : Prop :=
  ∃ flow channel customer message initial,
    call.Starts w flow channel customer message initial ∧
    w.Opens flow channel.id customer message initial row

/-- An invocation that starts a flow is no wake-up call. -/
theorem Invocation.Starts.drops {call : Invocation} {w : World} {flow : String}
    {channel : ChannelAccess} {customer : String} {message : InboundMessage} {initial : Object}
    (h : call.Starts w flow channel customer message initial) : call.Drops w := by
  cases h <;> trivial

/-- An invocation that starts a flow may go on with what its customer has on the channel. -/
theorem Invocation.Starts.concerns {call : Invocation} {w : World} {flow : String}
    {channel : ChannelAccess} {customer : String} {message : InboundMessage} {initial : Object}
    (h : call.Starts w flow channel customer message initial) {row : Execution}
    (hcu : row.customerId = customer) (hch : row.channelId = channel.id) : call.Concerns row := by
  cases h <;> exact ⟨hcu, hch⟩

/-- The world with a row added at the end. -/
def World.withRow (w : World) (row : Execution) : World :=
  { w with
    executions := { w.executions with
      rows := w.executions.rows ++ [row]
      attempts := w.executions.attempts + 1 } }

/-- The world with a number of attempts. A creation that is refused changes nothing else. -/
def World.withAttempts (w : World) (attempts : Nat) : World :=
  { w with executions := { w.executions with attempts } }

/-- The row with which a flow begins bears a fresh id. -/
theorem World.Opens.sound {w : World} {flow : String} {channel : Option String} {customer : String}
    {message : InboundMessage} {initial : Object} {row : Execution}
    (h : w.Opens flow channel customer message initial row) (hs : w.executions.Sound) :
    (w.withRow row).executions.Sound := by
  obtain ⟨graph, trigger, -, -, hadmits, rfl⟩ := h
  have hcreate := hs.create flow customer channel (some trigger.id)
    (initial.update message.observed)
  rw [Executions.create_eq, if_pos hadmits] at hcreate
  exact hcreate

/-- A world that offers one flow, takes wake-up calls, and has seen nothing yet. -/
def World.offering (flow : Flow) (graph : FlowGraph) : World where
  channels := []
  flows := Flows.empty.add flow graph
  executions := .empty
  handled := []
  outside := ⟨⟨⟨0⟩, none⟩, .fresh [], .fresh [], [], .empty⟩
  timers := ⟨true, []⟩
  stepLimit := 0

/-! ## Opening a flow -/

/-- What can come of opening a flow. -/
inductive Opened (w : World) (flow : String) (channel : Option String) (customer : String)
    (message : InboundMessage) (initial : Object) :
    Except Failure (Option Departure) × World → Prop where
  /-- There is no such flow, or it has no trigger. -/
  | missing (failure : Failure) (hf : ¬ failure.IsOfNode) :
      Opened w flow channel customer message initial (.error failure, w)
  | created (departure : Departure)
      (ho : w.Opens flow channel customer message initial departure.held)
      (hg : w.flows.load? departure.held.flowId = some departure.graph) :
      Opened w flow channel customer message initial
        (.ok (some departure), w.withRow departure.held)
  /-- The customer has an active execution on the channel. -/
  | barred (ha : w.executions.admits customer channel = false) :
      Opened w flow channel customer message initial
        (.ok none, w.withAttempts (w.executions.attempts + 1))

theorem Work.openFlow_opened (w : World) (flow : String) (channel : Option String)
    (customer : String) (message : InboundMessage) (initial : Object) :
    Opened w flow channel customer message initial
      ((openFlow flow channel customer message initial).exec w) := by
  rw [exec_openFlow]
  cases hg : w.flows.load? flow with
  | none => exact .missing (.unknownFlow flow) (by simp [Failure.IsOfNode])
  | some graph =>
  dsimp only
  cases ht : graph.trigger? with
  | none => exact .missing (.noTrigger flow) (by simp [Failure.IsOfNode])
  | some trigger =>
  simp only [Executions.create_eq]
  cases ha : w.executions.admits customer channel with
  | true => exact .created ⟨graph, trigger, _⟩ ⟨graph, trigger, hg, ht, ha, rfl⟩ hg
  | false => exact .barred ha

/-! ## Carrying an execution on -/

/-- What work with a copy of an execution comes to once its checkpoint was submitted. -/
inductive Carried (held : Execution) (w : World) : Except Failure Outcome × World → Prop where
  | written (c : Checkpoint) (outside : Outside) (after : Execution) (executions : Executions)
      (hc : c.held = held)
      (hu : w.executions.update? c.held c.patch c.entries = some (after, executions)) :
      Carried held w (.ok ⟨c.action, some after.id, some after.status⟩,
        { w with
          outside
          executions
          timers := if after.waitsForTimer then
              w.timers.ask after (timeLeft outside.clock.now after.resumeAt)
            else w.timers })
  | conflict (c : Checkpoint) (outside : Outside) (hc : c.held = held)
      (hu : w.executions.update? c.held c.patch c.entries = none) :
      Carried held w (.ok ⟨.conflict, some held.id, none⟩, { w with outside })
  | nodeFailed (node : FlowNode) (cause : Failure) (outside : Outside)
      (hn : w.FailsAt held.flowId node cause) :
      Carried held w (.error (.node node.id node.type cause),
        { w with
          outside
          executions := w.executions.appendLog held.id (node.errorEntry cause) })
  | refused (failure : Failure) (outside : Outside) (hf : ¬ failure.IsOfNode) :
      Carried held w (.error failure, { w with outside })

/-- Submitting what was drafted carries an execution on. -/
theorem Drafted.submit {held : Execution} {w : World} {drafted : Except Failure Checkpoint × World}
    (h : Drafted held (w.FailsAt held.flowId) w drafted) :
    Carried held w (Work.proceed Work.submit drafted) := by
  cases h with
  | nodeFailed node cause outside hn => exact .nodeFailed node cause outside hn
  | refused failure outside hf => exact .refused failure outside hf
  | ready c outside hc =>
    rw [Work.proceed_ok, Work.exec_submit]
    cases hu : w.executions.update? c.held c.patch c.entries with
    | none => rw [hc]; exact .conflict c outside hc hu
    | some written => exact .written c outside written.1 written.2 hc hu

/-! ## Waking an execution -/

/-- What can come of a wake-up call for an execution. -/
inductive Woken (held : Execution) (version : Option Int) (w : World) :
    Except Failure Verdict × World → Prop where
  /-- The execution does not wait for a timer in the version of the call. -/
  | dropped (outcome : Outcome)
      (hd : held.waitsForTimer = true → version.any (· != (held.version : Int)) = true) :
      Woken held version w (.ok (.answer outcome), w)
  | early (outcome : Outcome) (hw : held.waitsForTimer = true)
      (he : Work.tooEarly w.outside.clock.now held.resumeAt = true) :
      Woken held version w (.ok (.answer outcome),
        { w with timers := w.timers.ask held (timeLeft w.outside.clock.now held.resumeAt) })
  | due (hw : held.waitsForTimer = true)
      (hl : Work.tooEarly w.outside.clock.now held.resumeAt = false) :
      Woken held version w
        (((Work.resumeDue held).exec w).1.map .write, ((Work.resumeDue held).exec w).2)

theorem Work.wake_woken (held : Execution) (id : String) (version : Option Int) (w : World) :
    Woken held version w ((wake (some held) id version).exec w) := by
  rw [exec_wake]
  cases hw : held.waitsForTimer with
  | false => exact .dropped _ (by simp [hw])
  | true =>
  cases hv : version.any (· != (held.version : Int)) with
  | true => exact .dropped _ fun _ => hv
  | false =>
  cases he : tooEarly w.outside.clock.now held.resumeAt with
  | true => exact .early _ hw he
  | false =>
    show Woken held version w ((Verdict.write <$> resumeDue held).exec w)
    rw [exec_map]
    exact .due hw he

/-! ## All that can come of an invocation -/

/-- What can come of an invocation. -/
inductive Performed (call : Invocation) (w : World) : Except Failure Outcome × World → Prop where
  /-- There was nothing to do, or someone else is at it. -/
  | answered (outcome : Outcome) (attempts : Nat) (ha : w.executions.attempts ≤ attempts)
      (hd : call.Drops w) : Performed call w (.ok outcome, w.withAttempts attempts)
  /-- No flow can be started. -/
  | rejected (failure : Failure) (hf : ¬ failure.IsOfNode) (hd : call.Drops w) :
      Performed call w (.error failure, w)
  /-- A wake-up call came too early and was asked for again. -/
  | rearmed (held : Execution) (outcome : Outcome) (hheld : held ∈ w.executions.rows)
      (hw : held.waitsForTimer = true) (hc : call.Concerns held)
      (he : Work.tooEarly w.outside.clock.now held.resumeAt = true) :
      Performed call w (.ok outcome,
        { w with timers := w.timers.ask held (timeLeft w.outside.clock.now held.resumeAt) })
  /-- An execution of the store was carried on, perhaps after a refused creation. -/
  | carried (held : Execution) (attempts : Nat) (result : Except Failure Outcome × World)
      (ha : w.executions.attempts ≤ attempts) (hheld : held ∈ w.executions.rows)
      (hc : call.Concerns held) (h : Carried held (w.withAttempts attempts) result) :
      Performed call w result
  /-- An execution was created and carried on. -/
  | opened (row : Execution) (result : Except Failure Outcome × World) (ho : call.Opens w row)
      (h : Carried row (w.withRow row) result) : Performed call w result

/-- A message text cannot be compared with keywords only if it is no text. -/
theorem firstStarted?_error {text : Value} {flows : List Flow} {failure : Failure}
    (h : firstStarted? text flows = .error failure) : ∃ kind, failure = .textOfKind kind := by
  induction flows with
  | nil => cases h
  | cons flow rest ih =>
    simp only [firstStarted?] at h
    cases hs : flow.isStartedBy text with
    | ok started =>
      rw [hs] at h
      cases started with
      | true => cases h
      | false => exact ih h
    | error found =>
      rw [hs] at h
      obtain rfl : found = failure := by injection h
      unfold Flow.isStartedBy at hs
      split at hs
      · cases hs
      · exact ⟨_, by injection hs with hs; exact hs.symm⟩
      · cases hs

namespace Work

variable {w : World}

/-- Going on with an active execution, and submitting what was drafted. -/
theorem continueWith_carried (held : Execution) (credentials : Credentials)
    (message : InboundMessage) :
    Carried held w ((continueWith held credentials message >>= submit).exec w) := by
  rw [exec_bind]
  exact (continueWith_drafted held credentials message).submit

/-- The start of a flow goes on with the execution that it creates or, if the creation is refused,
with the active one if that waits. -/
theorem startFlow_performed {call : Invocation} {flow : String} {channel : ChannelAccess}
    {customer : String} {message : InboundMessage} {initial : Object}
    (hs : call.Starts w flow channel customer message initial) :
    Performed call w ((startFlow flow channel customer message initial).exec w) := by
  have hopened := openFlow_opened w flow channel.id customer message initial
  rw [startFlow, exec_bind]
  generalize (openFlow flow channel.id customer message initial).exec w = opened at hopened
  cases hopened with
  | missing failure hf => exact .rejected failure hf hs.drops
  | created departure ho hg =>
    rw [proceed_ok, exec_bind]
    have hdrafted := setOut_drafted (w := w.withRow departure.held) departure
      channel.credentials message
    exact .opened departure.held _ ⟨flow, channel, customer, message, initial, hs, ho⟩
      (hdrafted.mono fun node cause hn => ⟨departure.graph, hg, hn⟩).submit
  | barred _ =>
    simp only [exec_bind, exec_get, proceed_ok]
    cases hf : (w.withAttempts (w.executions.attempts + 1)).executions.findActive? customer
        channel.id with
    | none => exact .answered _ _ (Nat.le_succ _) hs.drops
    | some held =>
    obtain ⟨hheld, hcu, hch, -⟩ := Executions.findActive?_some hf
    dsimp only
    split
    · exact .carried held _ _ (Nat.le_succ _) hheld (hs.concerns hcu hch)
        (continueWith_carried ..)
    · exact .answered _ _ (Nat.le_succ _) hs.drops

theorem handleInbound_performed (channel : ChannelAccess) (customer : String)
    (message : InboundMessage) (initial : Object) :
    Performed (.inbound channel customer message initial) w
      ((handleInbound channel customer message initial).exec w) := by
  simp only [handleInbound, exec_bind, exec_get, proceed_ok]
  cases hf : w.executions.findActive? customer channel.id with
  | some held =>
    obtain ⟨hheld, hcu, hch, -⟩ := Executions.findActive?_some hf
    exact .carried held _ _ (Nat.le_refl _) hheld ⟨hcu, hch⟩ (continueWith_carried ..)
  | none =>
    simp only [receive, chooseFlow, exec_bind, exec_get, proceed_ok, exec_ofExcept]
    cases hs : firstStarted? message.text (w.flows.offered channel.id) with
    | error failure =>
      obtain ⟨kind, rfl⟩ := firstStarted?_error hs
      exact .rejected (.textOfKind kind) (by simp [Failure.IsOfNode]) trivial
    | ok chosen =>
      cases chosen with
      | none => exact .answered _ _ (Nat.le_refl _) trivial
      | some flow => exact startFlow_performed (.inbound hs)

theorem resumeTimer_performed (id : String) (version : Option Int) :
    Performed (.timer id version) w ((resumeTimer id version).exec w) := by
  simp only [resumeTimer, exec_bind, exec_get, proceed_ok]
  cases hf : w.executions.get? id with
  | none =>
    exact .answered ⟨.ignored, some id, none⟩ _ (Nat.le_refl _)
      (show Invocation.Drops w (.timer id version) from fun held hheld => by simp [hf] at hheld)
  | some held =>
    obtain ⟨hheld, hid⟩ := Executions.get?_some hf
    have hwoken := wake_woken held id version w
    generalize (wake (some held) id version).exec w = woken at hwoken
    cases hwoken with
    | dropped outcome hd =>
      have hdrops : Invocation.Drops w (.timer id version) := by
        intro other hother hw
        obtain rfl : held = other := by simpa [hf] using hother
        exact hd hw
      exact .answered outcome _ (Nat.le_refl _) hdrops
    | early outcome hw he => exact .rearmed held outcome hheld hw hid he
    | due hw hl =>
      have hsubmit := (resumeDue_drafted (w := w) held).submit
      generalize (resumeDue held).exec w = drafted at hsubmit ⊢
      rcases drafted with ⟨_ | c, w'⟩
      · exact .carried held _ _ (Nat.le_refl _) hheld hid hsubmit
      · exact .carried held _ _ (Nat.le_refl _) hheld hid hsubmit

end Work

/-- Every invocation takes one of the courses. -/
theorem Invocation.perform_performed (call : Invocation) (w : World) :
    Performed call w (call.perform.exec w) := by
  cases call with
  | inbound channel customer message initial => exact Work.handleInbound_performed ..
  | start flow channel customer message initial =>
    exact Work.startFlow_performed .start
  | timer id version => exact Work.resumeTimer_performed id version

end ChatFlow

import ChatFlow.Engine.Invocation

/-!
# Doing work on a world

`Work.exec` does work on a world and tells what came of it and how the world was left. The equations
here say what each building block of work does, so that no later proof opens the monad. A failure
keeps the world as it was left (`exec_bind`), reading changes nothing (`exec_get`, `exec_now`,
`exec_graphOf`), and the only ways in which work reaches the executions and the timers are
`exec_commit`, `exec_log`, `exec_schedule` and what is made of them: `exec_submit`, `exec_openFlow`
and `exec_wake`.
-/

namespace ChatFlow

namespace Work

variable {α β : Type}

/-- Does work on a world: what came of it, and the world afterwards. -/
def exec (work : Work α) (world : World) : Except Failure α × World :=
  (ExceptT.run work).run world

@[simp] theorem exec_pure (a : α) (w : World) : (pure a : Work α).exec w = (.ok a, w) := rfl

@[simp] theorem exec_throw (failure : Failure) (w : World) :
    (throw failure : Work α).exec w = (.error failure, w) := rfl

@[simp] theorem exec_get (w : World) : (get : Work World).exec w = (.ok w, w) := rfl

@[simp] theorem exec_modify (change : World → World) (w : World) :
    (modify change : Work Unit).exec w = (.ok (), change w) := rfl

/-- Goes on in the world that earlier work left, and not at all after a failure. -/
def proceed (next : α → Work β) : Except Failure α × World → Except Failure β × World
  | (.ok a, w) => (next a).exec w
  | (.error failure, w) => (.error failure, w)

@[simp] theorem proceed_ok (next : α → Work β) (a : α) (w : World) :
    proceed next (.ok a, w) = (next a).exec w := rfl

@[simp] theorem proceed_error (next : α → Work β) (failure : Failure) (w : World) :
    proceed next (.error failure, w) = (.error failure, w) := rfl

@[simp] theorem exec_bind (work : Work α) (next : α → Work β) (w : World) :
    (work >>= next).exec w = proceed next (work.exec w) := by
  show (ExceptT.bindCont next (work.exec w).1).run (work.exec w).2 = _
  rcases work.exec w with ⟨_ | _, _⟩ <;> rfl

@[simp] theorem exec_map (f : α → β) (work : Work α) (w : World) :
    (f <$> work).exec w = ((work.exec w).1.map f, (work.exec w).2) := by
  rw [map_eq_pure_bind, exec_bind]
  rcases work.exec w with ⟨_ | _, _⟩ <;> rfl

@[simp] theorem exec_ofExcept (result : Except Failure α) (w : World) :
    (MonadExcept.ofExcept result : Work α).exec w = (result, w) := by
  cases result <;> rfl

@[simp] theorem exec_liftM (result : Except Fault α) (w : World) :
    (liftM result : Work α).exec w = (result.mapError .fault, w) :=
  exec_ofExcept _ w

/-- A failure is caught in the world that the work has left. -/
@[simp] theorem exec_tryCatch (work : Work α) (handler : Failure → Work α) (w : World) :
    (tryCatch work handler).exec w =
      match work.exec w with
      | (.ok a, w') => (.ok a, w')
      | (.error failure, w') => (handler failure).exec w' := by
  have hcatch : (tryCatch work handler : Work α) = ExceptT.tryCatch work handler := rfl
  have hwork : StateT.run work w = work.exec w := rfl
  rw [hcatch, ExceptT.tryCatch, exec, ExceptT.run_mk, StateT.run_bind, hwork]
  rcases work.exec w with ⟨_ | _, _⟩ <;> rfl

/-! ## Reading -/

@[simp] theorem exec_now (w : World) : now.exec w = (.ok w.outside.clock.now, w) := rfl

/-- The graph of a flow, or the failure that there is no such flow. -/
@[simp] theorem exec_graphOf (flow : String) (w : World) :
    (graphOf flow).exec w = ((w.flows.load? flow).elim (.error (.unknownFlow flow)) .ok, w) := by
  simp only [graphOf, exec_bind, exec_get, proceed_ok]
  cases w.flows.load? flow <;> rfl

/-! ## Writing -/

/-- A commit writes if the execution is still held, and else changes nothing. -/
theorem exec_commit (held : Execution) (patch : Patch) (entries : List LogEntry) (w : World) :
    (commit held patch entries).exec w =
      match w.executions.update? held patch entries with
      | some (after, executions) => (.ok (some after), { w with executions })
      | none => (.ok none, w) := by
  simp only [commit, exec_bind, exec_get, proceed_ok]
  rcases w.executions.update? held patch entries with _ | ⟨after, executions⟩ <;> rfl

@[simp] theorem exec_log (id : String) (entry : LogEntry) (w : World) :
    (log id entry).exec w =
      (.ok (), { w with executions := w.executions.appendLog id entry }) := rfl

end Work

/-- A wake-up call is asked for if the service takes calls. -/
def Timers.ask (timers : Timers) (execution : Execution) (delay : Option Span) : Timers :=
  if timers.accepts then
    { timers with wakeups := timers.wakeups ++ [⟨execution.id, execution.version, delay⟩] }
  else timers

namespace Work

@[simp] theorem exec_schedule (execution : Execution) (delay : Option Span) (w : World) :
    (schedule execution delay).exec w =
      (.ok (), { w with timers := w.timers.ask execution delay }) := by
  simp only [schedule, exec_modify, Timers.ask]
  split <;> rfl

/-- Submitting a checkpoint is one commit. If it goes through and leaves an execution that waits for
a timer, a wake-up call is asked for in the version that was written. -/
theorem exec_submit (c : Checkpoint) (w : World) :
    (submit c).exec w =
      match w.executions.update? c.held c.patch c.entries with
      | some (after, executions) =>
        (.ok ⟨c.action, some after.id, some after.status⟩,
          { w with
            executions
            timers := if after.waitsForTimer then
                w.timers.ask after (timeLeft w.outside.clock.now after.resumeAt)
              else w.timers })
      | none => (.ok ⟨.conflict, some c.held.id, none⟩, w) := by
  simp only [submit, exec_bind, exec_commit]
  rcases w.executions.update? c.held c.patch c.entries with _ | ⟨after, executions⟩
  · rfl
  · by_cases h : after.waitsForTimer = true <;> simp [h, Except.map]

/-- Opening a flow fails if there is no such flow or it has no trigger, and else is one creation. -/
theorem exec_openFlow (flow : String) (channel : Option String) (customer : String)
    (message : InboundMessage) (initial : Object) (w : World) :
    (openFlow flow channel customer message initial).exec w =
      match w.flows.load? flow with
      | none => (.error (.unknownFlow flow), w)
      | some graph =>
        match graph.trigger? with
        | none => (.error (.noTrigger flow), w)
        | some trigger =>
          let created := w.executions.create flow customer channel (some trigger.id)
            (initial.update message.observed)
          (.ok (created.1.map (⟨graph, trigger, ·⟩)), { w with executions := created.2 }) := by
  simp only [openFlow, exec_bind, exec_graphOf]
  cases w.flows.load? flow with
  | none => rfl
  | some graph =>
    simp only [Option.elim_some, proceed_ok]
    cases graph.trigger? <;> rfl

/-- A wake-up call is dropped unless the execution waits for a timer in the version of the call. If
it comes too early it is asked for again, and else the execution goes on. -/
theorem exec_wake (held : Execution) (id : String) (version : Option Int) (w : World) :
    (wake (some held) id version).exec w =
      if !held.waitsForTimer || version.any (· != (held.version : Int)) then
        (.ok (.answer ⟨.ignored, some id, some held.status⟩), w)
      else if tooEarly w.outside.clock.now held.resumeAt then
        (.ok (.answer ⟨.ignored, some id, some held.status⟩),
          { w with timers :=
              w.timers.ask held (timeLeft w.outside.clock.now held.resumeAt) })
      else (Verdict.write <$> resumeDue held).exec w := by
  simp only [wake]
  split
  · rfl
  · simp only [exec_bind, exec_now, proceed_ok]
    split
    · simp only [exec_bind, exec_schedule, proceed_ok, exec_pure]
    · rw [map_eq_pure_bind]

end Work

end ChatFlow

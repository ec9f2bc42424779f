import ChatFlow.Proofs.Engine.Course

/-!
# Invocations side by side

Several invocations may be under way at the same time. A `Task` is what is left to do of one of
them, and its steps are the accesses to the store and the work between them: reading an execution or
creating one, drafting a checkpoint for the copy that was read, and writing the checkpoint. A
`Machine` has any number of tasks and takes steps of them in any order, so a copy may be of any age
when its checkpoint is written. `Task.finish_eq_step` says that the steps of a task make up the
engine's work.

`Turned` is all that a step can do, and `Machine.Good` what always holds in between: ids are
distinct, every copy is a past state of its row, and what is written was active when it was read.
-/

namespace ChatFlow

/-- Whether a checkpoint is what the engine makes of the execution that it is for. -/
inductive Checkpoint.IsWork (c : Checkpoint) : Prop where
  | reply (credentials : Credentials) (message : InboundMessage) (w w' : World)
      (h : (Work.continueWith c.held credentials message).exec w = (.ok c, w'))
  | departure (graph : FlowGraph) (trigger : FlowNode) (credentials : Credentials)
      (message : InboundMessage) (w w' : World)
      (h : (Work.setOut ⟨graph, trigger, c.held⟩ credentials message).exec w = (.ok c, w'))
  | timer (w w' : World) (h : (Work.resumeDue c.held).exec w = (.ok c, w'))

/-! ## Tasks -/

/-- What is left to do of an invocation. -/
inductive Task where
  | inbound (channel : ChannelAccess) (customer : String) (message : InboundMessage)
      (initial : Object)
  /-- The customer had no active execution when it was looked for. -/
  | unmatched (channel : ChannelAccess) (customer : String) (message : InboundMessage)
      (initial : Object)
  | start (flow : String) (channel : ChannelAccess) (customer : String) (message : InboundMessage)
      (initial : Object)
  /-- The creation of an execution was refused. -/
  | barred (channel : ChannelAccess) (customer : String) (message : InboundMessage)
  | departing (departure : Departure) (credentials : Credentials) (message : InboundMessage)
  /-- An active execution was read. -/
  | holding (held : Execution) (credentials : Credentials) (message : InboundMessage)
  | called (id : String) (version : Option Int)
  /-- The execution of a wake-up call was read. -/
  | woken (found : Option Execution) (id : String) (version : Option Int)
  | writing (c : Checkpoint)

namespace Task

/-- An invocation of which nothing was done yet. -/
def ofInvocation : Invocation → Task
  | .inbound channel customer message initial => .inbound channel customer message initial
  | .start flow channel customer message initial => .start flow channel customer message initial
  | .timer id version => .called id version

/-- The next step of a task: what is left to do then, or what came of it. -/
def step : Task → Work (Task ⊕ Outcome)
  | .inbound channel customer message initial => do
    match (← get).executions.findActive? customer channel.id with
    | some held => return .inl (.holding held channel.credentials message)
    | none => return .inl (.unmatched channel customer message initial)
  | .unmatched channel customer message initial => do
    match ← Work.chooseFlow channel.id message with
    | none => return .inr ⟨.noMatch, none, none⟩
    | some flow => return .inl (.start flow.id channel customer message initial)
  | .start flow channel customer message initial => do
    match ← Work.openFlow flow channel.id customer message initial with
    | some departure => return .inl (.departing departure channel.credentials message)
    | none => return .inl (.barred channel customer message)
  | .barred channel customer message => do
    match (← get).executions.findActive? customer channel.id with
    | none => return .inr ⟨.conflict, none, none⟩
    | some held =>
      if held.status = .waiting then return .inl (.holding held channel.credentials message)
      else return .inr ⟨.conflict, some held.id, some held.status⟩
  | .departing departure credentials message => do
    return .inl (.writing (← Work.setOut departure credentials message))
  | .holding held credentials message => do
    return .inl (.writing (← Work.continueWith held credentials message))
  | .called id version => do
    return .inl (.woken ((← get).executions.get? id) id version)
  | .woken found id version => do
    match ← Work.wake found id version with
    | .answer outcome => return .inr outcome
    | .write c => return .inl (.writing c)
  | .writing c => do
    return .inr (← Work.submit c)

/-- All that is left to do of a task, without interruption. -/
def finish : Task → Work Outcome
  | .inbound channel customer message initial =>
    Work.handleInbound channel customer message initial
  | .unmatched channel customer message initial =>
    Work.receive none channel customer message initial
  | .start flow channel customer message initial =>
    Work.startFlow flow channel customer message initial
  | .barred channel customer message => do
    match (← get).executions.findActive? customer channel.id with
    | none => return ⟨.conflict, none, none⟩
    | some held =>
      if held.status = .waiting then
        Work.submit (← Work.continueWith held channel.credentials message)
      else return ⟨.conflict, some held.id, some held.status⟩
  | .departing departure credentials message => do
    Work.submit (← Work.setOut departure credentials message)
  | .holding held credentials message => do
    Work.submit (← Work.continueWith held credentials message)
  | .called id version => Work.resumeTimer id version
  | .woken found id version => do Work.conclude (← Work.wake found id version)
  | .writing c => Work.submit c

/-- A task for an invocation is the engine's work for it. -/
theorem finish_ofInvocation (call : Invocation) : (ofInvocation call).finish = call.perform := by
  cases call <;> rfl

/-- What is left to do of a task is its next step, and then what is left to do after that. -/
theorem finish_eq_step (t : Task) (w : World) :
    t.finish.exec w = Work.proceed (Sum.elim finish pure) (t.step.exec w) := by
  cases t with
  | inbound channel customer message initial =>
    simp only [finish, step, Work.handleInbound, Work.exec_bind, Work.exec_get, Work.proceed_ok]
    cases w.executions.findActive? customer channel.id <;> rfl
  | unmatched channel customer message initial =>
    simp only [finish, step, Work.receive, Work.exec_bind]
    rcases (Work.chooseFlow channel.id message).exec w with ⟨_ | _ | flow, w'⟩ <;> rfl
  | start flow channel customer message initial =>
    simp only [finish, step, Work.startFlow, Work.exec_bind]
    rcases (Work.openFlow flow channel.id customer message initial).exec w with
      ⟨_ | _ | departure, w'⟩ <;> rfl
  | barred channel customer message =>
    simp only [finish, step, Work.exec_bind, Work.exec_get, Work.proceed_ok]
    cases w.executions.findActive? customer channel.id with
    | none => rfl
    | some held =>
      by_cases hs : held.status = .waiting
      · simp only [hs, if_true]
        rfl
      · simp only [hs, if_false]
        rfl
  | departing departure credentials message =>
    simp only [finish, step, Work.exec_bind]
    rcases (Work.setOut departure credentials message).exec w with ⟨_ | c, w'⟩ <;> rfl
  | holding held credentials message =>
    simp only [finish, step, Work.exec_bind]
    rcases (Work.continueWith held credentials message).exec w with ⟨_ | c, w'⟩ <;> rfl
  | called id version => rfl
  | woken found id version =>
    simp only [finish, step, Work.exec_bind]
    rcases (Work.wake found id version).exec w with ⟨_ | outcome | c, w'⟩ <;> rfl
  | writing c =>
    simp only [finish, step, Work.exec_bind]
    rcases (Work.submit c).exec w with ⟨_ | outcome, w'⟩ <;> rfl

/-- The copy of an execution that a task has read or created. -/
def held? : Task → Option Execution
  | .departing departure _ _ => some departure.held
  | .holding held _ _ => some held
  | .woken found _ _ => found
  | .writing c => some c.held
  | .inbound .. | .unmatched .. | .start .. | .barred .. | .called .. => none

/-- Whether an execution that a task goes on with was active when it was read, and what is written
is the engine's work. -/
def Valid : Task → Prop
  | .departing departure _ _ => departure.held.status.isActive = true
  | .holding held _ _ => held.status.isActive = true
  | .writing c => c.held.status.isActive = true ∧ c.IsWork
  | .inbound .. | .unmatched .. | .start .. | .barred .. | .called .. | .woken .. => True

/-- The checkpoints that the next step of a task writes. -/
def commits (t : Task) (w : World) : List Checkpoint :=
  match t with
  | .writing c => if (w.executions.update? c.held c.patch c.entries).isSome then [c] else []
  | _ => []

end Task

/-! ## What a step can do -/

/-- What the next step of a task can come to. -/
inductive Turned (w : World) (t : Task) : Except Failure (Task ⊕ Outcome) × World → Prop where
  /-- The task is over. -/
  | ended (result : Except Failure Outcome) (w' : World)
      (hk : w.executions.Keeps w'.executions) (hc : t.commits w = []) :
      Turned w t (result.map .inr, w')
  /-- The task goes on, perhaps with a copy of an execution that it has just read. -/
  | went (next : Task) (w' : World) (hk : w.executions.Keeps w'.executions)
      (hc : t.commits w = [])
      (hheld : ∀ held, next.held? = some held →
        held ∈ w.executions.rows ∨ t.held? = some held)
      (hv : t.Valid → next.Valid) : Turned w t (.ok (.inl next), w')
  | opened (departure : Departure) (credentials : Credentials) (flow : String)
      (channel : Option String) (customer : String) (message : InboundMessage) (initial : Object)
      (hc : t.commits w = []) (ho : w.Opens flow channel customer message initial departure.held) :
      Turned w t (.ok (.inl (.departing departure credentials message)), w.withRow departure.held)
  | written (c : Checkpoint) (after : Execution) (executions : Executions) (outcome : Outcome)
      (timers : Timers) (ht : t = .writing c)
      (hu : w.executions.update? c.held c.patch c.entries = some (after, executions)) :
      Turned w t (.ok (.inr outcome), { w with executions, timers })

/-- Drafting a checkpoint is a step towards writing it. -/
theorem Drafted.turned {t : Task} {held : Execution} {Fails : FlowNode → Failure → Prop}
    {w : World} {drafted : Except Failure Checkpoint × World} (h : Drafted held Fails w drafted)
    (ht : t.held? = some held) (hc : t.commits w = [])
    (hv : ∀ c, c.held = held → drafted.1 = .ok c → t.Valid → (Task.writing c).Valid) :
    Turned w t (drafted.1.map (.inl <| .writing ·), drafted.2) := by
  have hk := h.keeps
  cases h with
  | ready c outside hch =>
    refine .went _ _ hk hc (fun other hother => ?_) (hv c hch rfl)
    obtain rfl : c.held = other := by simpa [Task.held?] using hother
    exact .inr (hch ▸ ht)
  | nodeFailed node cause outside hn => exact .ended (.error _) _ hk hc
  | refused failure outside hf => exact .ended (.error _) _ hk hc

/-- An execution that waits for a timer is active. -/
theorem Execution.isActive_of_waitsForTimer {held : Execution} (h : held.waitsForTimer = true) :
    held.status.isActive = true := by
  simp only [waitsForTimer, Bool.and_eq_true, beq_iff_eq] at h
  rw [h.1]
  rfl

namespace Task

variable {w : World}

/-- Looking for a customer's active execution finds one that may be gone on with. -/
theorem turned_of_findActive {t : Task} {customer : String} {channel : Option String}
    {held : Execution} (credentials : Credentials) (message : InboundMessage)
    (h : w.executions.findActive? customer channel = some held) (hc : t.commits w = []) :
    Turned w t (.ok (.inl (.holding held credentials message)), w) := by
  obtain ⟨hrow, -, -, hactive⟩ := Executions.findActive?_some h
  refine .went _ _ (.refl _) hc (fun other hother => ?_) fun _ => hactive
  obtain rfl : held = other := by simpa [held?] using hother
  exact .inl hrow

/-- Going on without a copy of an execution. -/
theorem turned_of_held?_none {t next : Task} {w' : World} (hk : w.executions.Keeps w'.executions)
    (hc : t.commits w = []) (hn : next.held? = none) (hv : next.Valid) :
    Turned w t (.ok (.inl next), w') :=
  .went next w' hk hc (fun held hheld => by simp [hn] at hheld) fun _ => hv

/-- Every step of a task is one of these. -/
theorem step_turned (t : Task) (w : World) : Turned w t (t.step.exec w) := by
  cases t with
  | inbound channel customer message initial =>
    simp only [step, Work.exec_bind, Work.exec_get, Work.proceed_ok]
    cases hf : w.executions.findActive? customer channel.id with
    | some held => exact turned_of_findActive _ _ hf rfl
    | none => exact turned_of_held?_none (.refl _) rfl rfl trivial
  | unmatched channel customer message initial =>
    simp only [step, Work.chooseFlow, Work.exec_bind, Work.exec_get, Work.proceed_ok,
      Work.exec_ofExcept]
    rcases firstStarted? message.text (w.flows.offered channel.id) with failure | _ | flow
    · exact .ended (.error failure) _ (.refl _) rfl
    · exact .ended (.ok _) _ (.refl _) rfl
    · exact turned_of_held?_none (.refl _) rfl rfl trivial
  | start flow channel customer message initial =>
    simp only [step, Work.exec_bind]
    have hopened := Work.openFlow_opened w flow channel.id customer message initial
    generalize (Work.openFlow flow channel.id customer message initial).exec w = opened at hopened
    cases hopened with
    | missing failure hf => exact .ended (.error failure) _ (.refl _) rfl
    | created departure ho hg => exact .opened departure _ _ _ _ _ _ rfl ho
    | barred ha => exact turned_of_held?_none ⟨rfl, Nat.le_succ _⟩ rfl rfl trivial
  | barred channel customer message =>
    simp only [step, Work.exec_bind, Work.exec_get, Work.proceed_ok]
    cases hf : w.executions.findActive? customer channel.id with
    | none => exact .ended (.ok _) _ (.refl _) rfl
    | some held =>
      dsimp only
      split
      · exact turned_of_findActive _ _ hf rfl
      · exact .ended (.ok _) _ (.refl _) rfl
  | departing departure credentials message =>
    obtain ⟨graph, trigger, held⟩ := departure
    have hdrafted := Work.setOut_drafted (w := w) ⟨graph, trigger, held⟩ credentials message
    rw [step, ← map_eq_pure_bind, Work.exec_map]
    refine hdrafted.turned rfl rfl fun c hc hok hv => ?_
    subst hc
    exact ⟨hv, .departure graph trigger credentials message w _ (Prod.ext hok rfl)⟩
  | holding held credentials message =>
    rw [step, ← map_eq_pure_bind, Work.exec_map]
    refine (Work.continueWith_drafted held credentials message).turned rfl rfl fun c hc hok hv => ?_
    subst hc
    exact ⟨hv, .reply credentials message w _ (Prod.ext hok rfl)⟩
  | called id version =>
    refine .went _ _ (.refl _) rfl (fun held hheld => .inl ?_) fun _ => trivial
    exact (Executions.get?_some hheld).1
  | woken found id version =>
    cases found with
    | none => exact .ended (.ok _) _ (.refl _) rfl
    | some held =>
    simp only [step, Work.exec_bind]
    have hwoken := Work.wake_woken held id version w
    generalize (Work.wake (some held) id version).exec w = woken at hwoken
    cases hwoken with
    | dropped outcome hd => exact .ended (.ok outcome) _ (.refl _) rfl
    | early outcome hw he => exact .ended (.ok outcome) _ (.refl _) rfl
    | due hw hl =>
      have hturned : Turned w (.woken (some held) id version)
          (((Work.resumeDue held).exec w).1.map (.inl <| .writing ·),
            ((Work.resumeDue held).exec w).2) := by
        refine (Work.resumeDue_drafted held).turned rfl rfl fun c hc hok _ => ?_
        subst hc
        exact ⟨Execution.isActive_of_waitsForTimer hw, .timer w _ (Prod.ext hok rfl)⟩
      generalize (Work.resumeDue held).exec w = drafted at hturned ⊢
      rcases drafted with ⟨_ | c, w'⟩ <;> exact hturned
  | writing c =>
    rw [step, ← map_eq_pure_bind, Work.exec_map, Work.exec_submit]
    cases hu : w.executions.update? c.held c.patch c.entries with
    | none => exact .ended (.ok _) _ (.refl _) (by simp [commits, hu])
    | some written => exact .written c written.1 written.2 _ _ rfl hu

end Task

/-! ## Machines -/

/-- A world in which tasks are under way. `origins` are the executions as they were at the start or
when they were created, and `commits` the checkpoints that were written, in order. -/
structure Machine where
  world : World
  tasks : List Task
  origins : List Execution
  commits : List Checkpoint

/-- What can happen next: an invocation begins, a task takes its next step, or the world changes in
anything but the executions. -/
inductive Move where
  | invoke (call : Invocation)
  | turn (i : Nat)
  | change (world : World)

namespace Machine

/-- A world in which nothing is under way. -/
def start (w : World) : Machine := ⟨w, [], w.executions.rows, []⟩

/-- The machine after the step of a task that came to a result. -/
def after (m : Machine) (i : Nat) (t : Task) :
    Except Failure (Task ⊕ Outcome) × World → Machine
  | (result, world) =>
    { world
      tasks :=
        match result with
        | .ok (.inl next) => m.tasks.set i next
        | _ => m.tasks.eraseIdx i
      origins := m.origins ++ world.executions.rows.drop m.world.executions.rows.length
      commits := m.commits ++ t.commits m.world }

/-- The machine after a move. -/
def step (m : Machine) : Move → Machine
  | .invoke call => { m with tasks := m.tasks ++ [.ofInvocation call] }
  | .turn i =>
    match m.tasks[i]? with
    | none => m
    | some t => m.after i t (t.step.exec m.world)
  | .change world => { m with world := { world with executions := m.world.executions } }

/-- The machine after moves in an order. -/
def run (m : Machine) (moves : List Move) : Machine := moves.foldl step m

variable {m : Machine}

/-- What every move preserves, holds after all moves. -/
theorem run_induction {P : Machine → Prop} (h : P m) (hstep : ∀ m move, P m → P (m.step move))
    (moves : List Move) : P (m.run moves) := by
  induction moves generalizing m with
  | nil => exact h
  | cons move moves ih => exact ih (hstep m move h)

/-- What holds of the tasks and of what a step leads to, holds of the tasks after the step. -/
theorem forall_mem_after {P : Task → Prop} {i : Nat} {t : Task}
    {result : Except Failure (Task ⊕ Outcome) × World} (h : ∀ t ∈ m.tasks, P t)
    (hnext : ∀ next, result.1 = .ok (.inl next) → P next) :
    ∀ t' ∈ (m.after i t result).tasks, P t' := by
  obtain ⟨result, w'⟩ := result
  intro t' ht'
  rcases result with failure | next | outcome
  · exact h t' (List.mem_of_mem_eraseIdx ht')
  · rcases List.mem_or_eq_of_mem_set ht' with hmem | rfl
    · exact h t' hmem
    · exact hnext t' rfl
  · exact h t' (List.mem_of_mem_eraseIdx ht')

/-- What holds of a machine at all times. -/
structure Good (m : Machine) : Prop where
  sound : m.world.executions.Sound
  known : ∀ t ∈ m.tasks, ∀ held, t.held? = some held → m.world.executions.Knows held
  valid : ∀ t ∈ m.tasks, t.Valid

theorem good_start {w : World} (hs : w.executions.Sound) : (start w).Good :=
  ⟨hs, fun t ht => by simp [start] at ht, fun t ht => by simp [start] at ht⟩

/-- A step of a task keeps a machine good. -/
theorem Good.after (hg : m.Good) {i : Nat} {t : Task} (ht : t ∈ m.tasks)
    {result : Except Failure (Task ⊕ Outcome) × World} (h : Turned m.world t result) :
    (m.after i t result).Good := by
  cases h with
  | ended outcome w' hk hc =>
    refine ⟨hg.sound.keeps hk, forall_mem_after (fun t ht held hheld => ?_) ?_,
      forall_mem_after hg.valid ?_⟩
    · exact (hg.known t ht held hheld).keeps hk
    · intro next hnext
      cases outcome <;> cases hnext
    · intro next hnext
      cases outcome <;> cases hnext
  | went next w' hk hc hheld hv =>
    refine ⟨hg.sound.keeps hk, forall_mem_after (fun t ht held hheld => ?_) ?_,
      forall_mem_after hg.valid ?_⟩
    · exact (hg.known t ht held hheld).keeps hk
    · rintro next ⟨⟩ held hnext
      rcases hheld held hnext with hrow | hsame
      · exact (Executions.Knows.of_mem hrow).keeps hk
      · exact (hg.known t ht held hsame).keeps hk
    · rintro next ⟨⟩
      exact hv (hg.valid t ht)
  | opened departure credentials flow channel customer message initial hc ho =>
    refine ⟨ho.sound hg.sound, forall_mem_after (fun t ht held hheld => ?_) ?_,
      forall_mem_after hg.valid ?_⟩
    · exact (hg.known t ht held hheld).append rfl
    · rintro next ⟨⟩ held ⟨⟩
      exact .of_mem (List.mem_append_right _ (List.mem_singleton_self _))
    · rintro next ⟨⟩
      obtain ⟨graph, trigger, -, -, -, hrow⟩ := ho
      show departure.held.status.isActive = true
      rw [hrow]
      rfl
  | written c after executions outcome timers htask hu =>
    obtain ⟨-, rfl⟩ := Executions.update?_some hu
    refine ⟨hg.sound.written _ _ _, forall_mem_after (fun t ht held hheld => ?_) ?_,
      forall_mem_after hg.valid ?_⟩
    · exact (hg.known t ht held hheld).written _ _ _
    · intro next hnext
      cases hnext
    · intro next hnext
      cases hnext

/-- A move keeps a machine good. -/
theorem Good.step (hg : m.Good) (move : Move) : (m.step move).Good := by
  cases move with
  | invoke call =>
    refine ⟨hg.sound, ?_, ?_⟩
    · intro t ht held hheld
      rcases List.mem_append.1 ht with hmem | hnew
      · exact hg.known t hmem held hheld
      · rw [List.mem_singleton.1 hnew] at hheld
        cases call <;> cases hheld
    · intro t ht
      rcases List.mem_append.1 ht with hmem | hnew
      · exact hg.valid t hmem
      · rw [List.mem_singleton.1 hnew]
        cases call <;> trivial
  | turn i =>
    simp only [Machine.step]
    split
    · exact hg
    · next t ht => exact hg.after (List.mem_of_getElem? ht) (t.step_turned m.world)
  | change world => exact ⟨hg.sound, hg.known, hg.valid⟩

/-- A checkpoint that goes through is for the row itself. -/
theorem Good.held_mem (hg : m.Good) {c : Checkpoint} (hc : .writing c ∈ m.tasks)
    {after : Execution} {store : Executions}
    (hu : m.world.executions.update? c.held c.patch c.entries = some (after, store)) :
    c.held ∈ m.world.executions.rows := by
  rcases hg.sound.update?_cases (hg.known _ hc c.held rfl) c.patch c.entries with
    ⟨hget, -⟩ | ⟨row, -, -, hstale⟩
  · exact (Executions.get?_some hget).1
  · rw [hstale] at hu
    cases hu

/-- Whether a machine can come about in a world in which nothing was under way, by any moves in any
order. -/
def ComesFrom (m : Machine) (w : World) : Prop := ∃ moves, m = (start w).run moves

/-- **The induction over what happens.** A property holds of every machine that was started on a
sound store if it holds at the start and the steps of tasks keep it, and the beginning of an
invocation and a change of the rest of the world do. -/
theorem ComesFrom.induct {w : World} {P : Machine → Prop} (h : m.ComesFrom w)
    (hs : w.executions.Sound) (hstart : P (start w))
    (hinvoke : ∀ m call, P m → P (m.step (.invoke call)))
    (hchange : ∀ m world, P m → P (m.step (.change world)))
    (hturn : ∀ (m : Machine) i t result, m.Good → t ∈ m.tasks → Turned m.world t result → P m →
      P (m.after i t result)) : m.Good ∧ P m := by
  obtain ⟨moves, rfl⟩ := h
  refine run_induction (P := fun m => m.Good ∧ P m) ⟨good_start hs, hstart⟩ ?_ moves
  rintro m move ⟨hg, hp⟩
  refine ⟨hg.step move, ?_⟩
  cases move with
  | invoke call => exact hinvoke m call hp
  | change world => exact hchange m world hp
  | turn i =>
    simp only [Machine.step]
    split
    · exact hp
    · next t ht => exact hturn m i t _ hg (List.mem_of_getElem? ht) (t.step_turned m.world) hp

/-- At all times a machine that was started on a sound store is good. -/
theorem ComesFrom.good {w : World} (h : m.ComesFrom w) (hs : w.executions.Sound) : m.Good :=
  (h.induct (P := fun _ => True) hs trivial (fun _ _ _ => trivial) (fun _ _ _ => trivial)
    fun _ _ _ _ _ _ _ _ => trivial).1

end Machine

end ChatFlow

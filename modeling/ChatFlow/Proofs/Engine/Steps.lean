import ChatFlow.Proofs.Engine.Events
import ChatFlow.Proofs.Engine.Interleaving

/-!
# What the steps of invocations do

`Turned` tells what a step of a task can do to the store. Here is what it does in full:
`Task.walk?` is the walk that the next step of a task takes, and `Task.does` says that a step takes
this walk, or reads or creates an execution, or writes, or ends the task.

Nodes are dispatched only by walks. What a walk makes of its execution is in the checkpoint that is
left to be written, so a property of all executions is kept by a machine if it holds of new rows, is
kept by notes and walks, and holds of what tasks hold.

Main statements: `Task.does`, all that a step can do; `Machine.Good.induct`, the induction over the
moves of a machine.
-/

namespace ChatFlow

/-! ## Drafts -/

/-- The walk of a plan, if it is one. -/
def Plan.walk? : Plan → Option Leg
  | .walk leg => some leg
  | .answer _ | .refuse _ | .block _ _ | .note _ _ => none

/-- The checkpoint of a walk that makes changes. -/
def Leg.checkpoint (leg : Leg) (w : World) (patch : Patch) : Checkpoint :=
  ⟨leg.held, patch, leg.entries w, leg.action⟩

/-- The work that follows a creation is a walk from the trigger. -/
theorem Work.setOut_eq_draft (departure : Departure) (credentials : Credentials)
    (message : InboundMessage) :
    setOut departure credentials message =
      (Leg.ofDeparture departure credentials message).draft := rfl

/-- The walk that a message sets off is taken with the execution in the graph of its flow, unless it
waits for a timer. -/
theorem Plan.walk?_ofMessage {w : World} {held : Execution} {credentials : Credentials}
    {message : InboundMessage} {leg : Leg}
    (h : (Plan.ofMessage w held credentials message).walk? = some leg) :
    leg.held = held ∧ w.flows.load? held.flowId = some leg.graph ∧ ¬ held.waitsForTimer = true := by
  unfold Plan.ofMessage at h
  split at h
  · cases h
  next hw =>
  unfold Plan.inFlow at h
  cases hg : w.flows.load? held.flowId with
  | none =>
    rw [hg] at h
    cases h
  | some graph =>
  rw [hg, Option.elim_some] at h
  split at h
  · unfold Plan.ofReply at h
    split at h
    · obtain rfl := Option.some.inj h
      exact ⟨rfl, rfl, hw⟩
    · split at h
      · cases h
      · obtain rfl := Option.some.inj h
        exact ⟨rfl, rfl, hw⟩
  · obtain rfl := Option.some.inj h
    exact ⟨rfl, rfl, hw⟩

namespace Task

/-! ## Walks -/

/-- The walk that the next step of a task takes, if it takes one. -/
def walk? (w : World) : Task → Option Leg
  | .departing departure credentials message =>
    some (.ofDeparture departure credentials message)
  | .holding held credentials message => (Plan.ofMessage w held credentials message).walk?
  | .woken (some held) _ version =>
    if !held.waitsForTimer || version.any (· != (held.version : Int)) then none
    else if Work.tooEarly w.outside.clock.now held.resumeAt then none
    else
      (w.flows.load? held.flowId).map
        (.ofTimer · held (w.channels.credentials held.channelId))
  | .inbound .. | .unmatched .. | .start .. | .barred .. | .called .. | .woken none _ _
  | .writing _ => none

/-- The nodes whose work the next step of a task begins on behalf of an execution, in order. -/
def dispatched (w : World) (id : String) (t : Task) : List FlowNode :=
  match t.walk? w with
  | some leg => if leg.held.id = id then (leg.itinerary w).filterMap Waypoint.visited? else []
  | none => []

variable {w : World} {t : Task} {leg : Leg}

/-- The walks that tasks take: from the trigger of a new execution, with an active execution that
does not wait for a timer, or with one whose timer is due. -/
inductive Walks (w : World) : Task → Leg → Prop where
  | departing (departure : Departure) (credentials : Credentials) (message : InboundMessage) :
      Walks w (.departing departure credentials message)
        (.ofDeparture departure credentials message)
  | holding (leg : Leg) (credentials : Credentials) (message : InboundMessage)
      (hg : w.flows.load? leg.held.flowId = some leg.graph)
      (hw : ¬ leg.held.waitsForTimer = true) :
      Walks w (.holding leg.held credentials message) leg
  | woken (held : Execution) (id : String) (version : Option Int) (graph : FlowGraph)
      (hg : w.flows.load? held.flowId = some graph) (hw : held.waitsForTimer = true)
      (hv : version.any (· != (held.version : Int)) = false)
      (hl : Work.tooEarly w.outside.clock.now held.resumeAt = false) :
      Walks w (.woken (some held) id version)
        (.ofTimer graph held (w.channels.credentials held.channelId))

theorem walks_of_walk? (h : t.walk? w = some leg) : Walks w t leg := by
  cases t with
  | departing departure credentials message =>
    obtain rfl := Option.some.inj h
    exact .departing departure credentials message
  | holding held credentials message =>
    obtain ⟨rfl, hg, hw⟩ := Plan.walk?_ofMessage h
    exact .holding leg credentials message hg hw
  | woken found id version =>
    cases found with
    | none => cases h
    | some held =>
    simp only [walk?] at h
    split at h
    · cases h
    next hready =>
    obtain ⟨hw, hv⟩ : held.waitsForTimer = true ∧
        version.any (· != (held.version : Int)) = false := by
      simpa only [Bool.or_eq_true, Bool.not_eq_true', not_or, Bool.not_eq_false,
        Bool.not_eq_true] using hready
    split at h
    · cases h
    next hl =>
    obtain ⟨graph, hg, rfl⟩ := Option.map_eq_some_iff.1 h
    exact .woken held id version graph hg hw hv (Bool.not_eq_true _ ▸ hl)
  | inbound | unmatched | start | barred | called | writing => cases h

/-- A walk is taken with the copy that the task holds. -/
theorem held?_of_walk? (h : t.walk? w = some leg) : t.held? = some leg.held := by
  cases walks_of_walk? h <;> rfl

/-- A walk is taken with a copy of an active execution. -/
theorem Valid.isActive_of_walk? (hv : t.Valid) (h : t.walk? w = some leg) :
    leg.held.status.isActive = true := by
  cases walks_of_walk? h with
  | departing => exact hv
  | holding => exact hv
  | woken held id version graph hg hw => exact Execution.isActive_of_waitsForTimer hw

/-- All that the next step of a task can do. -/
inductive Does (w : World) (t : Task) : Except Failure (Task ⊕ Outcome) × World → Prop where
  /-- There is nothing to do for the task, or nothing that can be done. -/
  | ends (result : Except Failure Outcome) (hwalk : t.walk? w = none)
      (ht : ∀ c, t ≠ .writing c) : Does w t (result.map .inr, w)
  /-- A wake-up call comes too early and is asked for again. -/
  | rearms (held : Execution) (id : String) (version : Option Int) (outcome : Outcome)
      (ht : t = .woken (some held) id version) (hwalk : t.walk? w = none)
      (hw : held.waitsForTimer = true) :
      Does w t (.ok (.inr outcome),
        { w with timers := w.timers.ask held (timeLeft w.outside.clock.now held.resumeAt) })
  /-- There is more to be done, perhaps after a creation that was refused. -/
  | goesOn (next : Task) (attempts : Nat) (hwalk : t.walk? w = none)
      (ha : w.executions.attempts ≤ attempts) (hnext : next.held? = none)
      (hv : next.Valid) : Does w t (.ok (.inl next), w.withAttempts attempts)
  /-- An active execution is found. -/
  | finds (held : Execution) (credentials : Credentials) (message : InboundMessage)
      (hwalk : t.walk? w = none) (hheld : held ∈ w.executions.rows)
      (ha : held.status.isActive = true) :
      Does w t (.ok (.inl (.holding held credentials message)), w)
  /-- The execution of a wake-up call is read. -/
  | looksUp (id : String) (version : Option Int) (ht : t = .called id version) :
      Does w t (.ok (.inl (.woken (w.executions.get? id) id version)), w)
  /-- An execution is created. -/
  | opens (departure : Departure) (credentials : Credentials) (flow : String)
      (channel : Option String) (customer : String) (message : InboundMessage) (initial : Object)
      (hwalk : t.walk? w = none)
      (ho : w.Opens flow channel customer message initial departure.held)
      (hg : w.flows.load? departure.held.flowId = some departure.graph) :
      Does w t (.ok (.inl (.departing departure credentials message)), w.withRow departure.held)
  /-- A message that comes during a timer is to be noted. -/
  | notes (held : Execution) (credentials : Credentials) (message : InboundMessage)
      (ht : t = .holding held credentials message) (hwalk : t.walk? w = none)
      (hw : held.waitsForTimer = true) :
      Does w t (.ok (.inl (.writing (Work.recordDuringTimer held message))), w)
  | walks (leg : Leg) (hwalk : t.walk? w = some leg) :
      Does w t ((leg.patch? w).map fun patch => .inl (.writing (leg.checkpoint w patch)),
        leg.walked w)
  /-- What was drafted is written. -/
  | writes (c : Checkpoint) (ht : t = .writing c)
      (hu : w.executions.rows.any (Executions.isHeld c.held) = true) :
      Does w t (.ok (.inr ⟨c.action, some c.held.id, some (c.patch.apply c.held).status⟩),
        w.withWritten c.held c.patch c.entries)
  /-- Someone else was faster. -/
  | yields (c : Checkpoint) (ht : t = .writing c)
      (hu : w.executions.rows.any (Executions.isHeld c.held) = false) :
      Does w t (.ok (.inr ⟨.conflict, some c.held.id, none⟩), w)

/-- The work of a walk is a step towards writing what it changes. -/
theorem does_draft (hwalk : t.walk? w = some leg) :
    Does w t ((leg.draft.exec w).1.map (.inl <| .writing ·), (leg.draft.exec w).2) := by
  have hmap : ((leg.patch? w).map fun patch => leg.checkpoint w patch).map
      (fun c => (.inl (.writing c) : Task ⊕ Outcome)) =
        (leg.patch? w).map fun patch => .inl (.writing (leg.checkpoint w patch)) := by
    cases leg.patch? w <;> rfl
  rw [Leg.exec_draft]
  dsimp only
  exact hmap ▸ .walks leg hwalk

/-- Looking for a customer's active execution finds one that may be gone on with. -/
theorem does_findActive {customer : String} {channel : Option String} {held : Execution}
    (credentials : Credentials) (message : InboundMessage)
    (h : w.executions.findActive? customer channel = some held) (hwalk : t.walk? w = none) :
    Does w t (.ok (.inl (.holding held credentials message)), w) := by
  obtain ⟨hheld, -, -, hactive⟩ := Executions.findActive?_some h
  exact .finds held credentials message hwalk hheld hactive

/-- **Every step of a task does one of these things.** -/
theorem does (t : Task) (w : World) : Does w t (t.step.exec w) := by
  cases t with
  | inbound channel customer message initial =>
    simp only [step, Work.exec_bind, Work.exec_get, Work.proceed_ok]
    cases hf : w.executions.findActive? customer channel.id with
    | some held => exact does_findActive _ _ hf rfl
    | none => exact .goesOn _ w.executions.attempts rfl (Nat.le_refl _) rfl trivial
  | unmatched channel customer message initial =>
    simp only [step, Work.chooseFlow, Work.exec_bind, Work.exec_get, Work.proceed_ok,
      Work.exec_ofExcept]
    rcases firstStarted? message.text (w.flows.offered channel.id) with failure | _ | flow
    · exact .ends (.error failure) rfl fun _ => Task.noConfusion
    · exact .ends (.ok _) rfl fun _ => Task.noConfusion
    · exact .goesOn _ w.executions.attempts rfl (Nat.le_refl _) rfl trivial
  | start flow channel customer message initial =>
    simp only [step, Work.exec_bind]
    have hopened := Work.openFlow_opened w flow channel.id customer message initial
    generalize (Work.openFlow flow channel.id customer message initial).exec w = opened at hopened
    cases hopened with
    | missing failure hf => exact .ends (.error failure) rfl fun _ => Task.noConfusion
    | created departure ho hg => exact .opens departure _ _ _ _ _ _ rfl ho hg
    | barred ha => exact .goesOn _ _ rfl (Nat.le_succ _) rfl trivial
  | barred channel customer message =>
    simp only [step, Work.exec_bind, Work.exec_get, Work.proceed_ok]
    cases hf : w.executions.findActive? customer channel.id with
    | none => exact .ends (.ok _) rfl fun _ => Task.noConfusion
    | some held =>
      dsimp only
      split
      · exact does_findActive _ _ hf rfl
      · exact .ends (.ok _) rfl fun _ => Task.noConfusion
  | departing departure credentials message =>
    have hwalk : walk? w (.departing departure credentials message) =
        some (.ofDeparture departure credentials message) := rfl
    rw [step, ← map_eq_pure_bind, Work.exec_map, Work.setOut_eq_draft]
    exact does_draft hwalk
  | holding held credentials message =>
    rw [step, ← map_eq_pure_bind, Work.exec_map]
    have hcontinued := Work.continueWith_continued held credentials message w
    generalize (Work.continueWith held credentials message).exec w = continued at hcontinued
    cases hcontinued with
    | notes hw hplan => exact .notes held credentials message rfl (congrArg Plan.walk? hplan) hw
    | blocked failure hplan =>
      exact .ends (.error failure) (congrArg Plan.walk? hplan) fun _ => Task.noConfusion
    | walks leg hplan => exact does_draft (congrArg Plan.walk? hplan)
  | called id version => exact .looksUp id version rfl
  | woken found id version =>
    cases found with
    | none => exact .ends (.ok _) rfl fun _ => Task.noConfusion
    | some held =>
    simp only [step, Work.exec_bind, Work.exec_wake]
    by_cases hdropped : (!held.waitsForTimer || version.any (· != (held.version : Int))) = true
    · have hwalk : walk? w (.woken (some held) id version) = none := by
        simp only [walk?, if_pos hdropped]
      rw [if_pos hdropped]
      exact .ends (.ok _) hwalk fun _ => Task.noConfusion
    have hw : held.waitsForTimer = true := by
      by_contra hno
      exact hdropped (by simp [hno])
    by_cases hearly : Work.tooEarly w.outside.clock.now held.resumeAt = true
    · have hwalk : walk? w (.woken (some held) id version) = none := by
        simp only [walk?, if_neg hdropped, if_pos hearly]
      rw [if_neg hdropped, if_pos hearly]
      exact .rearms held id version _ rfl hwalk hw
    have hwalk : walk? w (.woken (some held) id version) =
        (w.flows.load? held.flowId).map
          (.ofTimer · held (w.channels.credentials held.channelId)) := by
      simp only [walk?, if_neg hdropped, if_neg hearly]
    rw [if_neg hdropped, if_neg hearly, Work.exec_map]
    cases hg : w.flows.load? held.flowId with
    | none =>
      rw [hg] at hwalk
      rw [Work.exec_resumeDue_of_none hg]
      exact .ends (.error _) hwalk fun _ => Task.noConfusion
    | some graph =>
      rw [hg, Option.map_some] at hwalk
      have hdraft := does_draft hwalk
      rw [Work.exec_resumeDue_of_some hg]
      generalize (Leg.ofTimer graph held (w.channels.credentials held.channelId)).draft.exec w =
        drafted at hdraft ⊢
      rcases drafted with ⟨_ | c, w'⟩ <;> exact hdraft
  | writing c =>
    rw [step, ← map_eq_pure_bind, Work.exec_map, Work.exec_submit, Executions.update?_eq]
    by_cases hu : w.executions.rows.any (Executions.isHeld c.held) = true
    · rw [if_pos hu]
      exact .writes c rfl hu
    · rw [if_neg hu]
      exact .yields c rfl (Bool.not_eq_true _ ▸ hu)

variable {result : Except Failure (Task ⊕ Outcome) × World}

/-- A step leaves the flows alone. -/
theorem Does.flows_eq (h : Does w t result) : result.2.flows = w.flows := by
  cases h <;> rfl

/-- Nothing happens outside in a step that takes no walk. -/
theorem Does.outside_eq (h : Does w t result) (hwalk : t.walk? w = none) :
    result.2.outside = w.outside := by
  cases h with
  | walks leg hleg =>
    rw [hwalk] at hleg
    cases hleg
  | ends | rearms | goesOn | finds | looksUp | opens | notes | writes | yields => rfl

/-- What was known of the executions is known after a step. -/
theorem Does.knows (h : Does w t result) {held : Execution} (hk : w.executions.Knows held) :
    result.2.executions.Knows held := by
  cases h with
  | ends | rearms | finds | looksUp | notes | yields => exact hk
  | goesOn next attempts hwalk ha => exact hk.keeps ⟨rfl, ha⟩
  | walks leg hwalk => exact hk.keeps (leg.keeps_walked w)
  | opens => exact hk.append rfl
  | writes c => exact hk.written c.held c.patch c.entries

end Task

/-! ## Moves -/

/-- Whether a move leaves the graphs that there are as they are. -/
def Move.KeepsGraphs (m : Machine) (move : Move) : Prop :=
  ∀ world, move = .change world →
    ∀ flow graph, m.world.flows.load? flow = some graph → world.flows.load? flow = some graph

/-- Whether a move asks for no wake-up calls but by the work of a task. -/
def Move.KeepsCalls (m : Machine) (move : Move) : Prop :=
  ∀ world, move = .change world → ∀ call ∈ world.timers.wakeups, call ∈ m.world.timers.wakeups

namespace Machine

variable {m : Machine}

/-- Whether each move of a run has a property in the machine in which it happens. -/
def Throughout (P : Machine → Move → Prop) : Machine → List Move → Prop
  | _, [] => True
  | m, move :: rest => P m move ∧ Throughout P (m.step move) rest

theorem Throughout.of_forall {P : Machine → Move → Prop} {moves : List Move}
    (h : ∀ m, ∀ move ∈ moves, P m move) : m.Throughout P moves := by
  induction moves generalizing m with
  | nil => trivial
  | cons move moves ih =>
    exact ⟨h m move List.mem_cons_self,
      ih fun m next hnext => h m next (List.mem_cons_of_mem _ hnext)⟩

theorem Throughout.imp {P Q : Machine → Move → Prop} {moves : List Move}
    (h : m.Throughout P moves) (hpq : ∀ m move, P m move → Q m move) : m.Throughout Q moves := by
  induction moves generalizing m with
  | nil => trivial
  | cons move moves ih => exact ⟨hpq m move h.1, ih h.2⟩

/-- **The induction over the moves of a machine.** A property that holds of a good machine holds
after all moves if the beginning of an invocation keeps it, the steps of tasks do, and those changes
of the rest of the world do that happen in the run. -/
theorem Good.induct {P : Machine → Prop} {Q : Machine → Move → Prop} (hg : m.Good) (hp : P m)
    {moves : List Move} (hq : m.Throughout Q moves)
    (hinvoke : ∀ m call, P m → P (m.step (.invoke call)))
    (hchange : ∀ m world, Q m (.change world) → P m → P (m.step (.change world)))
    (hturn : ∀ (m : Machine) i t result, m.Good → t ∈ m.tasks → t.Does m.world result → P m →
      P (m.after i t result)) : (m.run moves).Good ∧ P (m.run moves) := by
  induction moves generalizing m with
  | nil => exact ⟨hg, hp⟩
  | cons move moves ih =>
    refine ih (hg.step move) ?_ hq.2
    cases move with
    | invoke call => exact hinvoke m call hp
    | change world => exact hchange m world hq.1 hp
    | turn i =>
      simp only [Machine.step]
      split
      · exact hp
      · next t ht => exact hturn m i t _ hg (List.mem_of_getElem? ht) (t.does m.world) hp

/-- A copy that a task holds of a row is the row itself, or one of an earlier version. -/
theorem Good.eq_or_version_lt (hg : m.Good) {t : Task} (ht : t ∈ m.tasks) {held row : Execution}
    (hheld : t.held? = some held) (hrow : row ∈ m.world.executions.rows)
    (hid : held.id = row.id) : held = row ∨ held.version < row.version := by
  obtain ⟨here, hhere, hp⟩ := hg.known t ht held hheld
  obtain rfl := hg.sound.eq_of_id hhere hrow (hp.id.symm.trans hid)
  rcases Nat.lt_or_eq_of_le hp.version_le with hlt | heq
  · exact .inr hlt
  · exact .inl (hp.eq_of_version heq)

/-- A checkpoint that is written is for the row itself. -/
theorem Good.mem_of_isHeld (hg : m.Good) {c : Checkpoint} (hc : .writing c ∈ m.tasks)
    (hu : m.world.executions.rows.any (Executions.isHeld c.held) = true) :
    c.held ∈ m.world.executions.rows :=
  hg.held_mem hc (by rw [Executions.update?_eq, if_pos hu])

end Machine

end ChatFlow

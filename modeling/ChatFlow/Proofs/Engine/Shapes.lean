import ChatFlow.Proofs.Engine.Serial
import ChatFlow.Proofs.Engine.Steps
import ChatFlow.Proofs.Flow.Published

/-!
# The shapes of stored executions

A write changes some fields of an execution and keeps the others, so what a field holds may stem
from any earlier walk. Still every stored execution has one of few shapes, in which its fields fit
together (`Execution.Shaped`): it runs and was never written, it waits for a reply or for a timer at
a node of its flow that asks for that, or it is completed.

Notes keep the shape of an execution that waits (`Shaped.noted`), and a walk makes one of the shapes
of any execution that can go on (`Leg.shaped_apply`). Main statement: `Machine.shaped`, the
executions of a machine have these shapes at all times, as long as the graphs of the flows stay as
they are.
-/

namespace ChatFlow

/-! ## Nodes that wait -/

/-- The ways in which a node waits: for a reply, for a reason that is configured, or for a timer. -/
inductive FlowNode.Waits (node : FlowNode) : (reason : String) → Option ZonedMoment → Prop where
  | reply {reason : String} (variableName : Option String) (ht : node.type = "waitForReply")
      (hc : node.configured? = some (.waitForReply reason variableName)) (hne : reason ≠ "") :
      Waits node reason none
  | timer (seconds : Value) (moment : ZonedMoment) (ht : node.type = "delay")
      (hc : node.configured? = some (.delay seconds)) : Waits node timerReason (some moment)

/-- What is expected of a reply is never empty. -/
theorem expected_ne_empty (fields : Object) :
    (fields.presentText "expected_type").getD "any" ≠ "" := by
  cases h : fields.presentText "expected_type" with
  | none => decide
  | some expected => exact presentText?_ne_empty h

/-- A node whose work ends in a wait waits in one of these ways. -/
theorem FlowNode.waits_of_act {node : FlowNode} {recipient : Recipient} {before after : Scene}
    {result : NodeResult} {reason : String} {resumeAt : Option ZonedMoment}
    (h : (node.act recipient).run.run before = (.ok result, after))
    (hw : result.next = .wait reason resumeAt) : node.Waits reason resumeAt := by
  obtain ⟨config, hconfig, hleads⟩ := leads_of_wait recipient h hw
  obtain ⟨type, fields, hname, rfl⟩ := configured?_some hconfig
  cases type with
  | waitForReply =>
    have ht : node.type = "waitForReply" := by simpa [NodeType.names] using hname
    cases hleads
    exact .reply _ ht hconfig (expected_ne_empty fields)
  | delay =>
    have ht : node.type = "delay" := by simpa [NodeType.names] using hname
    obtain ⟨moment, hmoment⟩ := hleads
    cases hmoment
    exact .timer _ moment ht hconfig
  | condition | loop | randomChoice =>
    obtain ⟨_, he⟩ := hleads
    cases he
  | _ => cases hleads

/-! ## Shapes -/

/-- The shapes of a stored execution. -/
inductive Execution.Shaped (flows : Flows) (row : Execution) : Prop where
  /-- It was created, and nothing was written yet. -/
  | running (graph : FlowGraph) (trigger : FlowNode)
      (hg : flows.load? row.flowId = some graph) (hn : graph.trigger? = some trigger)
      (current : row.currentNode = some trigger.id) (status : row.status = .running)
      (version : row.version = 1) (waitingFor : row.waitingFor = none)
      (resumeAt : row.resumeAt = none) (completedAt : row.completedAt = none)
  /-- It waits for a reply. -/
  | asking (graph : FlowGraph) (node : FlowNode) (reason : String) (variableName : Option String)
      (hg : flows.load? row.flowId = some graph) (hn : graph.node? node.id = some node)
      (ht : node.type = "waitForReply")
      (hc : node.configured? = some (.waitForReply reason variableName))
      (current : row.currentNode = some node.id) (status : row.status = .waiting)
      (version : 2 ≤ row.version) (waitingFor : row.waitingFor = some reason)
      (hne : reason ≠ "") (resumeAt : row.resumeAt = none)
      (completedAt : row.completedAt = none)
  /-- It waits for a timer. -/
  | parked (graph : FlowGraph) (node : FlowNode) (due : Moment)
      (hg : flows.load? row.flowId = some graph) (hn : graph.node? node.id = some node)
      (ht : node.type = "delay") (current : row.currentNode = some node.id)
      (status : row.status = .waiting) (version : 2 ≤ row.version)
      (waitingFor : row.waitingFor = some timerReason) (resumeAt : row.resumeAt = some due)
      (completedAt : row.completedAt = none)
  | completed (graph : FlowGraph) (node : FlowNode) (ended : Moment)
      (hg : flows.load? row.flowId = some graph) (hn : node ∈ graph.nodes)
      (current : row.currentNode = some node.id) (status : row.status = .completed)
      (version : 2 ≤ row.version) (waitingFor : row.waitingFor = none)
      (resumeAt : row.resumeAt = none) (completedAt : row.completedAt = some ended)

namespace Execution.Shaped

variable {flows flows' : Flows} {row : Execution}

/-- A shape depends on no more than the graph of the flow. -/
theorem mono (h : row.Shaped flows)
    (hf : ∀ flow graph, flows.load? flow = some graph → flows'.load? flow = some graph) :
    row.Shaped flows' := by
  cases h with
  | running graph trigger hg hn current status version waitingFor resumeAt completedAt =>
    exact .running graph trigger (hf _ _ hg) hn current status version waitingFor resumeAt
      completedAt
  | asking graph node reason variableName hg hn ht hc current status version waitingFor hne resumeAt
      completedAt =>
    exact .asking graph node reason variableName (hf _ _ hg) hn ht hc current status version
      waitingFor hne resumeAt completedAt
  | parked graph node due hg hn ht current status version waitingFor resumeAt completedAt =>
    exact .parked graph node due (hf _ _ hg) hn ht current status version waitingFor resumeAt
      completedAt
  | completed graph node ended hg hn current status version waitingFor resumeAt completedAt =>
    exact .completed graph node ended (hf _ _ hg) hn current status version waitingFor resumeAt
      completedAt

/-- An execution of any shape stands at a node of its flow. -/
theorem stands (h : row.Shaped flows) :
    ∃ graph, flows.load? row.flowId = some graph ∧
      ∃ node ∈ graph.nodes, row.currentNode = some node.id := by
  cases h with
  | running graph trigger hg hn current =>
    exact ⟨graph, hg, trigger, List.mem_of_find?_eq_some hn, current⟩
  | asking graph node reason variableName hg hn ht hc current =>
    exact ⟨graph, hg, node, FlowGraph.node?_some hn, current⟩
  | parked graph node due hg hn ht current =>
    exact ⟨graph, hg, node, FlowGraph.node?_some hn, current⟩
  | completed graph node ended hg hn current => exact ⟨graph, hg, node, hn, current⟩

theorem one_le_version (h : row.Shaped flows) : 1 ≤ row.version := by
  cases h <;> omega

/-- An execution that can go on has not been completed before. -/
theorem completedAt_eq_none (h : row.Shaped flows) (ha : row.status.isActive = true) :
    row.completedAt = none := by
  cases h with
  | running | asking | parked => assumption
  | completed graph node ended hg hn current status =>
    rw [status] at ha
    cases ha

/-- The rows with which flows begin run at their triggers. -/
theorem of_opens {w : World} {flow : String} {channel : Option String} {customer : String}
    {message : InboundMessage} {initial : Object}
    (h : w.Opens flow channel customer message initial row) : row.Shaped w.flows := by
  obtain ⟨graph, trigger, hg, ht, -, rfl⟩ := h
  exact .running graph trigger hg ht rfl rfl rfl rfl rfl rfl

/-- Notes keep the shape of an execution that waits. -/
theorem noted (h : row.Shaped flows) (hs : row.status = .waiting) (vars : Object) :
    (Patch.apply { vars := some vars } row).Shaped flows := by
  cases h with
  | running graph trigger hg hn current status => cases hs.symm.trans status
  | asking graph node reason variableName hg hn ht hc current status version waitingFor hne resumeAt
      completedAt =>
    exact .asking graph node reason variableName hg hn ht hc current status
      (Nat.le_succ_of_le version) waitingFor hne resumeAt completedAt
  | parked graph node due hg hn ht current status version waitingFor resumeAt completedAt =>
    exact .parked graph node due hg hn ht current status (Nat.le_succ_of_le version) waitingFor
      resumeAt completedAt
  | completed graph node ended hg hn current status => cases hs.symm.trans status

end Execution.Shaped

/-! ## Walks -/

/-- What a walk that parked changes. -/
theorem Walk.patch?_parked {walk : Walk} {now : Moment} {patch : Patch} {id reason : String}
    {resumeAt : Option ZonedMoment} (he : walk.ending = .parked id reason resumeAt)
    (hp : walk.patch? now = .ok patch) :
    ∃ due, resumeAt.mapM (·.instant) = .ok due ∧
      patch = { status := some .waiting, waitingFor := some (some reason),
                currentNode := some (some id), vars := some walk.scene.env.vars,
                resumeAt := some due } := by
  rw [patch?, he] at hp
  dsimp only at hp
  split at hp
  · cases hp
  · next due hdue =>
    cases hp
    exact ⟨due, hdue, rfl⟩

/-- What a walk that completed changes. -/
theorem Walk.patch?_completed {walk : Walk} {now : Moment} {patch : Patch} {last : Option String}
    (he : walk.ending = .completed last) (hp : walk.patch? now = .ok patch) :
    patch = { status := some .completed, waitingFor := some none, resumeAt := some none,
              currentNode := some last, vars := some walk.scene.env.vars,
              completedAt := some (some now) } := by
  rw [patch?, he] at hp
  cases hp
  rfl

/-- **A walk makes one of the shapes** of any execution that can go on. -/
theorem Leg.shaped_apply {leg : Leg} {w : World} {flows : Flows} {patch : Patch}
    (hg : flows.load? leg.held.flowId = some leg.graph) (hs : leg.held.Shaped flows)
    (ha : leg.held.status.isActive = true) (hp : leg.patch? w = .ok patch) :
    (patch.apply leg.held).Shaped flows := by
  have hversion : 2 ≤ leg.held.version + 1 := Nat.succ_le_succ hs.one_le_version
  have hnever := hs.completedAt_eq_none ha
  cases he : (leg.walk w).ending with
  | failed node cause =>
    rw [patch?, Walk.patch?, he] at hp
    cases hp
  | parked id reason resumeAt =>
    obtain ⟨node, -, hn, before, result, after, hact, hnext⟩ := walkFrom_parked he
    obtain rfl := FlowGraph.node?_id hn
    obtain ⟨due, hdue, rfl⟩ := Walk.patch?_parked he hp
    cases FlowNode.waits_of_act hact hnext with
    | reply variableName ht hc hne =>
      cases hdue
      exact .asking leg.graph node reason variableName hg hn ht hc rfl rfl hversion rfl hne rfl
        hnever
    | timer seconds moment ht hc =>
      obtain ⟨due, rfl⟩ : ∃ moment, due = some moment := by
        rw [Option.mapM_some] at hdue
        cases hi : moment.instant with
        | error fault =>
          rw [hi] at hdue
          cases hdue
        | ok due =>
          rw [hi] at hdue
          exact ⟨due, (Except.ok.inj hdue).symm⟩
      exact .parked leg.graph node due hg hn ht rfl rfl hversion rfl rfl hnever
  | completed last =>
    obtain rfl := Walk.patch?_completed he hp
    obtain ⟨graph, hload, stood, hstood, hcurrent⟩ := hs.stands
    obtain rfl : graph = leg.graph := Option.some.inj (hload.symm.trans hg)
    obtain ⟨node, hn, hlast⟩ : ∃ node ∈ leg.graph.nodes, last = some node.id := by
      rcases walkFrom_completed he with rfl | hlater
      · exact ⟨stood, hstood, hcurrent⟩
      · exact hlater
    exact .completed leg.graph node _ hg hn hlast rfl hversion rfl rfl rfl

/-! ## Machines -/

/-- Whether what a task holds has a shape, and what it writes will have one. -/
def Task.Shaped (flows : Flows) : Task → Prop
  | .departing departure _ _ =>
    departure.held.Shaped flows ∧ flows.load? departure.held.flowId = some departure.graph
  | .holding held _ _ => held.Shaped flows
  | .woken found _ _ => ∀ held, found = some held → held.Shaped flows
  | .writing c => (c.patch.apply c.held).Shaped flows
  | .inbound .. | .unmatched .. | .start .. | .barred .. | .called .. => True

namespace Task

variable {w : World} {t : Task} {leg : Leg} {flows flows' : Flows}

theorem Shaped.mono (h : t.Shaped flows)
    (hf : ∀ flow graph, flows.load? flow = some graph → flows'.load? flow = some graph) :
    t.Shaped flows' := by
  cases t with
  | departing departure credentials message => exact ⟨h.1.mono hf, hf _ _ h.2⟩
  | holding held credentials message => exact Execution.Shaped.mono h hf
  | woken found id version => exact fun held hheld => (h held hheld).mono hf
  | writing c => exact Execution.Shaped.mono h hf
  | inbound | unmatched | start | barred | called => trivial

/-- A walk is taken with an execution of a shape, in the graph of its flow. -/
theorem Shaped.of_walk? (h : t.Shaped w.flows) (hwalk : t.walk? w = some leg) :
    leg.held.Shaped w.flows ∧ w.flows.load? leg.held.flowId = some leg.graph := by
  cases walks_of_walk? hwalk with
  | departing => exact h
  | holding leg credentials message hg => exact ⟨h, hg⟩
  | woken held id version graph hg => exact ⟨h held rfl, hg⟩

/-- A task that holds no execution has nothing of a shape to show. -/
theorem shaped_of_held?_none (h : t.held? = none) : t.Shaped flows := by
  cases t with
  | woken found id version =>
    intro held hheld
    cases h.symm.trans hheld
  | departing | holding | writing => cases h
  | inbound | unmatched | start | barred | called => trivial

variable {result : Except Failure (Task ⊕ Outcome) × World}

/-- A step leads to a task of which the same holds. -/
theorem Does.shaped_next (h : t.Does w result)
    (hrows : ∀ row ∈ w.executions.rows, row.Shaped w.flows) (ht : t.Shaped w.flows)
    (hv : t.Valid) {next : Task} (hnext : result.1 = .ok (.inl next)) : next.Shaped w.flows := by
  cases h with
  | ends outcome hwalk => cases outcome <;> cases hnext
  | goesOn other attempts hwalk ha hnone =>
    cases hnext
    exact shaped_of_held?_none hnone
  | finds held credentials message hwalk hheld =>
    cases hnext
    exact hrows held hheld
  | looksUp id version htask =>
    cases hnext
    exact fun held hheld => hrows held (Executions.get?_some hheld).1
  | opens departure credentials flow channel customer message initial hwalk ho hg =>
    cases hnext
    exact ⟨.of_opens ho, hg⟩
  | notes held credentials message htask hwalk hw =>
    cases hnext
    subst htask
    exact Execution.Shaped.noted ht (Execution.waitsForTimer_iff.1 hw).1 _
  | walks leg hwalk =>
    obtain ⟨hshaped, hg⟩ := ht.of_walk? hwalk
    cases hp : leg.patch? w with
    | error failure =>
      rw [hp] at hnext
      cases hnext
    | ok patch =>
      rw [hp] at hnext
      cases hnext
      exact leg.shaped_apply hg hshaped (hv.isActive_of_walk? hwalk) hp
  | rearms | writes | yields => cases hnext

end Task

namespace Machine

variable {m : Machine}

/-- Whether the executions of a machine have shapes, stored and held. -/
structure IsShaped (m : Machine) : Prop where
  rows : ∀ row ∈ m.world.executions.rows, row.Shaped m.world.flows
  tasks : ∀ t ∈ m.tasks, t.Shaped m.world.flows

/-- A step leads to rows that have shapes. -/
theorem IsShaped.rows_of_does (h : m.IsShaped) (hg : m.Good) {t : Task} (ht : t ∈ m.tasks)
    {result : Except Failure (Task ⊕ Outcome) × World} (hd : t.Does m.world result) :
    ∀ row ∈ result.2.executions.rows, row.Shaped m.world.flows := by
  cases hd with
  | ends | rearms | goesOn | finds | looksUp | notes | yields => exact h.rows
  | walks leg hwalk => exact fun row hrow => h.rows row ((leg.keeps_walked m.world).rows ▸ hrow)
  | opens departure credentials flow channel customer message initial hwalk ho =>
    intro row hrow
    rcases List.mem_append.1 hrow with hold | hnew
    · exact h.rows row hold
    · rw [List.mem_singleton.1 hnew]
      exact .of_opens ho
  | writes c htask hany =>
    subst htask
    have hheld := hg.mem_of_isHeld ht hany
    intro row hrow
    rcases (hg.sound.mem_rewrite_iff hheld).1 hrow with rfl | ⟨hold, -⟩
    · exact h.tasks _ ht
    · exact h.rows row hold

/-- A step of a task keeps the shapes. -/
theorem IsShaped.after (h : m.IsShaped) (hg : m.Good) {i : Nat} {t : Task} (ht : t ∈ m.tasks)
    {result : Except Failure (Task ⊕ Outcome) × World} (hd : t.Does m.world result) :
    (m.after i t result).IsShaped := by
  have hflows : (m.after i t result).world.flows = m.world.flows := hd.flows_eq
  constructor
  · rw [hflows]
    exact h.rows_of_does hg ht hd
  · rw [hflows]
    exact forall_mem_after h.tasks fun next hnext =>
      hd.shaped_next h.rows (h.tasks t ht) (hg.valid t ht) hnext

/-- The executions of a machine that was started without any have shapes at all times. -/
theorem isShaped_run {w : World} (hw : w.executions.rows = []) {moves : List Move}
    (hkeeps : (start w).Throughout Move.KeepsGraphs moves) :
    ((start w).run moves).IsShaped := by
  have hstart : (start w).IsShaped := by
    constructor
    · intro row hrow
      rw [show (start w).world.executions.rows = [] from hw] at hrow
      cases hrow
    · intro t ht
      cases ht
  refine ((good_start (.of_rows_nil hw)).induct hstart hkeeps ?_ ?_ ?_).2
  · rintro m call ⟨hrows, htasks⟩
    refine ⟨hrows, fun t ht => ?_⟩
    rcases List.mem_append.1 ht with hold | hnew
    · exact htasks t hold
    · rw [List.mem_singleton.1 hnew]
      cases call <;> trivial
  · rintro m world hkeep ⟨hrows, htasks⟩
    exact ⟨fun row hrow => (hrows row hrow).mono (hkeep world rfl),
      fun t ht => (htasks t ht).mono (hkeep world rfl)⟩
  · exact fun m i t result hg ht hd h => h.after hg ht hd

/-- **The shapes of stored executions.** Take any number of invocations that take their steps in any
order, beginning without executions, and let anything else change meanwhile but the graphs of the
flows. Every stored execution runs at the trigger of its flow as it was created, or waits for a
reply or a timer at a node of its flow that asks for that, or is completed at a node of its flow,
and what its other fields hold fits to that. -/
theorem shaped {w : World} (hw : w.executions.rows = []) (moves : List Move)
    (hkeeps : (start w).Throughout Move.KeepsGraphs moves) :
    ∀ row ∈ ((start w).run moves).world.executions.rows,
      row.Shaped ((start w).run moves).world.flows :=
  (isShaped_run hw hkeeps).rows

/-- One message gets the question asked. -/
def asked : Machine :=
  (start askingWorld).run
    [.invoke greeting, .turn 0, .turn 0, .turn 0, .turn 0, .turn 0]

/-- The execution waits for a reply. -/
theorem shaped_asked :
    asked.world.executions.rows.map (fun row => (row.status, row.version, row.waitingFor)) =
        [(.waiting, 2, some "any")] ∧
      ∀ row ∈ asked.world.executions.rows, row.Shaped asked.world.flows := by
  have hkeeps : (start askingWorld).Throughout Move.KeepsGraphs
      [.invoke greeting, .turn 0, .turn 0, .turn 0, .turn 0, .turn 0] := by
    refine .of_forall fun m move hmove world he => ?_
    subst he
    simp at hmove
  exact ⟨by cbv, shaped rfl _ hkeeps⟩

end Machine

end ChatFlow

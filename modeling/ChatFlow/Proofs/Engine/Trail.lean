import ChatFlow.Proofs.Engine.Events

/-!
# The trail of a walk

A walk that does not fail leaves a trail: the stations at which it did the work of a node, in order
(`Trail`). Each was reached by the edge on which the one before was left, and the walk stopped after
the last for one reason (`Halts`), which is told by the trail alone (`Halts.unique`). The trail and
the reason tell all of the walk (`walkFrom_eq`): how it ended, what it logged and what it left.

`Leg.stored_trail` says what is stored of it. A checkpoint that is written adds the entries of the
stations to the log, and leaves the execution at the last of them, with the variables as that left
them; it waits if and only if the last station does.
-/

namespace ChatFlow

/-! ## Trails -/

/-- The work of a node that was done on a walk: in which scene, with which result, and in which
scene it left off. -/
structure Station where
  node : FlowNode
  before : Scene
  result : NodeResult
  after : Scene

namespace Station

/-- Whether the work was done so. -/
def Occurs (recipient : Recipient) (station : Station) : Prop :=
  (station.node.act recipient).run.run station.before = (.ok station.result, station.after)

/-- What the log keeps of a station. -/
def entry (station : Station) : LogEntry := station.node.entry station.result.logged

/-- Whether the walk waits at a station. -/
def Waits (station : Station) : Prop :=
  ∃ reason resumeAt, station.result.next = .wait reason resumeAt

/-- Whether the walk goes on from a station, if there is an edge. -/
def Leaves (station : Station) : Prop :=
  ∃ handle, station.result.next = .leave handle

/-- Where the walk goes from a station. -/
def target? (graph : FlowGraph) (station : Station) : Option String :=
  match station.result.next with
  | .leave handle => (graph.nextEdge? station.node.id handle).map (·.target)
  | .wait _ _ | .finish => none

/-- Whether one station is left for another, by the edge for the handle that its work came to. -/
def LeadsTo (graph : FlowGraph) (station next : Station) : Prop :=
  ∃ handle edge, station.result.next = .leave handle ∧
    graph.nextEdge? station.node.id handle = some edge ∧
    graph.node? edge.target = some next.node ∧ next.before = station.after

end Station

/-- The trails of walks from a node, if there is one, in a scene. -/
structure Trail (graph : FlowGraph) (recipient : Recipient) (start : Option String) (scene : Scene)
    (stations : List Station) : Prop where
  occurs : ∀ station ∈ stations, station.Occurs recipient
  first : ∀ station, stations.head? = some station →
    start.bind graph.node? = some station.node ∧ station.before = scene
  chain : stations.IsChain (Station.LeadsTo graph)

/-- Where a walk goes after a trail. -/
def heading (graph : FlowGraph) (start : Option String) (stations : List Station) :
    Option String :=
  match stations.getLast? with
  | none => start
  | some station => station.target? graph

/-- Why a walk stops. -/
inductive Halt where
  /-- The last station waits. -/
  | waited (node : FlowNode) (reason : String) (resumeAt : Option ZonedMoment)
  /-- The last station ends the walk. -/
  | finished
  /-- There is no edge on which to leave the last station, or nowhere to begin. -/
  | deadEnd
  /-- The next node does not exist. -/
  | missing (id : String)
  /-- The next node would be one too many. -/
  | limit (node : FlowNode)

/-- The reason for which a walk stops after a trail. -/
inductive Halts (graph : FlowGraph) (steps : Nat) (start : Option String)
    (stations : List Station) : Halt → Prop where
  | waited {station : Station} {reason : String} {resumeAt : Option ZonedMoment}
      (hlast : stations.getLast? = some station)
      (hwait : station.result.next = .wait reason resumeAt) :
      Halts graph steps start stations (.waited station.node reason resumeAt)
  | finished {station : Station} (hlast : stations.getLast? = some station)
      (hfinish : station.result.next = .finish) : Halts graph steps start stations .finished
  | deadEnd (hleaves : ∀ station, stations.getLast? = some station → station.Leaves)
      (hnone : heading graph start stations = none) : Halts graph steps start stations .deadEnd
  | missing {id : String} (hid : heading graph start stations = some id)
      (hnone : graph.node? id = none) : Halts graph steps start stations (.missing id)
  | limit {id : String} {node : FlowNode} (hid : heading graph start stations = some id)
      (hnode : graph.node? id = some node) (hlength : stations.length = steps) :
      Halts graph steps start stations (.limit node)

namespace Halt

/-- What the log keeps of the reason: the node that was not dispatched, if there is one. -/
def entries : Halt → List LogEntry
  | .limit node => [node.entry stepLimitNotes]
  | .waited .. | .finished | .deadEnd | .missing _ => []

/-- The status of an execution after a walk that stopped. -/
def status : Halt → ExecutionStatus
  | .waited .. => .waiting
  | .finished | .deadEnd | .missing _ | .limit _ => .completed

end Halt

/-- The last node of a trail, or the one at which the execution stood before. -/
def lastNode (stood : Option String) (stations : List Station) : Option String :=
  (stations.getLast?.map (·.node.id)).or stood

/-- The scene at the end of a trail. -/
def lastScene (scene : Scene) (stations : List Station) : Scene :=
  (stations.getLast?.map (·.after)).getD scene

/-- The walk that a trail and the reason for which it stops make up. -/
def Halt.walk (halt : Halt) (stood : Option String) (scene : Scene) (stations : List Station) :
    Walk where
  ending :=
    match halt with
    | .waited node reason resumeAt => .parked node.id reason resumeAt
    | .finished | .deadEnd | .missing _ | .limit _ => .completed (lastNode stood stations)
  entries := stations.map (·.entry) ++ halt.entries
  scene := lastScene scene stations

section

variable {graph : FlowGraph} {recipient : Recipient} {start : Option String} {scene : Scene}
  {stations rest : List Station} {station : Station} {steps : Nat} {halt : Halt}

/-! ## One step -/

theorem Station.target?_of_leave {handle : Option String}
    (h : station.result.next = .leave handle) :
    station.target? graph = (graph.nextEdge? station.node.id handle).map (·.target) := by
  rw [target?, h]

theorem Station.leaves_of_target? {id : String} (h : station.target? graph = some id) :
    station.Leaves := by
  unfold target? at h
  split at h
  · next handle hleave => exact ⟨handle, hleave⟩
  · cases h
  · cases h

/-- A station leads to another if it is left for the node of the other, which goes on in the scene
in which it left off. -/
theorem Station.leadsTo_iff {next : Station} :
    station.LeadsTo graph next ↔
      (station.target? graph).bind graph.node? = some next.node ∧ next.before = station.after := by
  constructor
  · rintro ⟨handle, edge, hleave, hedge, hnode, hscene⟩
    refine ⟨?_, hscene⟩
    rw [target?_of_leave hleave, hedge]
    exact hnode
  · rintro ⟨hnode, hscene⟩
    obtain ⟨id, hid, hfound⟩ := Option.bind_eq_some_iff.1 hnode
    obtain ⟨handle, hleave⟩ := leaves_of_target? hid
    rw [target?_of_leave hleave] at hid
    obtain ⟨edge, hedge, rfl⟩ := Option.map_eq_some_iff.1 hid
    exact ⟨handle, edge, hleave, hedge, hfound, hscene⟩

/-- A walk does not wait at a station that is left. -/
theorem Station.Leaves.not_waits (h : station.Leaves) : ¬ station.Waits := by
  obtain ⟨handle, hleave⟩ := h
  rintro ⟨reason, resumeAt, hwait⟩
  rw [hleave] at hwait
  cases hwait

theorem Station.Leaves.next_ne_finish (h : station.Leaves) : station.result.next ≠ .finish := by
  obtain ⟨handle, hleave⟩ := h
  rw [hleave]
  exact nofun

theorem Trail.nil : Trail graph recipient start scene [] :=
  ⟨by simp, by simp, .nil⟩

/-- A trail begins with a station at the start and goes on from the target of that. -/
theorem trail_cons_iff :
    Trail graph recipient start scene (station :: rest) ↔
      (start.bind graph.node? = some station.node ∧ station.before = scene ∧
        station.Occurs recipient) ∧
      Trail graph recipient (station.target? graph) station.after rest := by
  constructor
  · rintro ⟨hoccurs, hfirst, hchain⟩
    obtain ⟨hstation, hrest⟩ := List.forall_mem_cons.1 hoccurs
    obtain ⟨hnode, hscene⟩ := hfirst station rfl
    obtain ⟨hleads, hchain⟩ := List.isChain_cons.1 hchain
    refine ⟨⟨hnode, hscene, hstation⟩, hrest, fun next hnext => ?_, hchain⟩
    exact Station.leadsTo_iff.1 (hleads next hnext)
  · rintro ⟨⟨hnode, hscene, hstation⟩, hoccurs, hfirst, hchain⟩
    refine ⟨List.forall_mem_cons.2 ⟨hstation, hoccurs⟩, ?_, List.isChain_cons.2 ⟨?_, hchain⟩⟩
    · rintro _ ⟨⟩
      exact ⟨hnode, hscene⟩
    · exact fun next hnext => Station.leadsTo_iff.2 (hfirst next hnext)

/-- A station after which another comes is left. -/
theorem Trail.leaves_of_cons {next : Station}
    (h : Trail graph recipient (station.target? graph) scene (next :: rest)) : station.Leaves := by
  obtain ⟨⟨hnode, -⟩, -⟩ := trail_cons_iff.1 h
  obtain ⟨id, hid, -⟩ := Option.bind_eq_some_iff.1 hnode
  exact Station.leaves_of_target? hid

/-- Nothing comes after a station that is not left. -/
theorem Trail.eq_nil (h : Trail graph recipient (station.target? graph) scene rest)
    (hstays : ¬ station.Leaves) : rest = [] := by
  cases rest with
  | nil => rfl
  | cons next rest => exact absurd h.leaves_of_cons hstays

/-- Only the last station of a trail waits or ends the walk. -/
theorem Trail.leaves (h : Trail graph recipient start scene stations) :
    ∀ station ∈ stations.dropLast, station.Leaves := by
  induction stations generalizing start scene with
  | nil => simp
  | cons first rest ih =>
    obtain ⟨-, hrest⟩ := trail_cons_iff.1 h
    cases rest with
    | nil => simp
    | cons second rest =>
      rw [List.dropLast_cons_cons]
      exact List.forall_mem_cons.2 ⟨hrest.leaves_of_cons, ih hrest⟩

/-- The reason for which a walk stops that would go on. -/
def Halt.ofHeading (graph : FlowGraph) : Option String → Halt
  | none => .deadEnd
  | some id => (graph.node? id).elim (.missing id) .limit

/-- The reason that a trail tells, if the walk stops after it. -/
def Halt.ofTrail (graph : FlowGraph) (start : Option String) (stations : List Station) : Halt :=
  match stations.getLast? with
  | none => .ofHeading graph start
  | some station =>
    match station.result.next with
    | .wait reason resumeAt => .waited station.node reason resumeAt
    | .finish => .finished
    | .leave _ => .ofHeading graph (station.target? graph)

/-- After a station that is left, the trail tells the reason that it tells from the target of that.
-/
theorem Halt.ofTrail_cons (hleaves : station.Leaves) :
    ofTrail graph start (station :: rest) = ofTrail graph (station.target? graph) rest := by
  unfold ofTrail
  rw [List.getLast?_cons]
  cases rest.getLast? with
  | none =>
    obtain ⟨handle, hleave⟩ := hleaves
    simp only [Option.getD_none, hleave]
  | some last => rfl

/-- If the last station is left, the reason lies in where the trail heads. -/
theorem Halt.ofTrail_of_leaves
    (h : ∀ station, stations.getLast? = some station → station.Leaves) :
    ofTrail graph start stations = .ofHeading graph (heading graph start stations) := by
  unfold ofTrail heading
  cases hlast : stations.getLast? with
  | none => rfl
  | some station =>
    obtain ⟨handle, hleave⟩ := h station hlast
    simp only [hleave]

/-- A walk that heads somewhere has left its last station. -/
theorem leaves_of_heading {id : String} (h : heading graph start stations = some id) :
    ∀ station, stations.getLast? = some station → station.Leaves := by
  intro station hlast
  rw [heading, hlast] at h
  exact Station.leaves_of_target? h

/-- The trail tells the reason for which the walk stops. -/
theorem Halts.eq_ofTrail (h : Halts graph steps start stations halt) :
    halt = .ofTrail graph start stations := by
  cases h with
  | waited hlast hwait => simp only [Halt.ofTrail, hlast, hwait]
  | finished hlast hfinish => simp only [Halt.ofTrail, hlast, hfinish]
  | deadEnd hleaves hnone =>
    rw [Halt.ofTrail_of_leaves hleaves, hnone, Halt.ofHeading]
  | missing hid hnone =>
    rw [Halt.ofTrail_of_leaves (leaves_of_heading hid), hid, Halt.ofHeading, hnone,
      Option.elim_none]
  | limit hid hnode hlength =>
    rw [Halt.ofTrail_of_leaves (leaves_of_heading hid), hid, Halt.ofHeading, hnode,
      Option.elim_some]

/-- A walk stops for the reason that the trail tells, and because of the limit only after as many
stations. -/
theorem halts_iff : Halts graph steps start stations halt ↔
    halt = .ofTrail graph start stations ∧
      ∀ node, halt = .limit node → stations.length = steps := by
  constructor
  · intro h
    refine ⟨h.eq_ofTrail, ?_⟩
    rintro node rfl
    cases h with
    | limit hid hnode hlength => exact hlength
  rintro ⟨rfl, hlimit⟩
  by_cases hleaves : ∀ station, stations.getLast? = some station → station.Leaves
  · rw [Halt.ofTrail_of_leaves hleaves] at hlimit ⊢
    cases hid : heading graph start stations with
    | none => exact .deadEnd hleaves hid
    | some id =>
      rw [hid, Halt.ofHeading] at hlimit
      rw [Halt.ofHeading]
      cases hnode : graph.node? id with
      | none => exact .missing hid hnode
      | some node =>
        rw [hnode, Option.elim_some] at hlimit
        exact .limit hid hnode (hlimit node rfl)
  · -- the last station is not left, so the walk waits or ends there
    obtain ⟨station, hstays⟩ := not_forall.1 hleaves
    obtain ⟨hlast, hstays⟩ := Classical.not_imp.1 hstays
    simp only [Halt.ofTrail, hlast]
    cases hnext : station.result.next with
    | leave handle => exact absurd ⟨handle, hnext⟩ hstays
    | wait reason resumeAt => exact .waited hlast hnext
    | finish => exact .finished hlast hnext

/-- After a station that is left, a walk stops for the reason for which it stops from the target of
that with one step less. -/
theorem halts_cons_iff (hleaves : station.Leaves) :
    Halts graph (steps + 1) start (station :: rest) halt ↔
      Halts graph steps (station.target? graph) rest halt := by
  rw [halts_iff, halts_iff, Halt.ofTrail_cons hleaves, List.length_cons]
  simp only [Nat.add_right_cancel_iff]

/-- **A walk stops for exactly one reason.** -/
theorem Halts.unique {halt₁ halt₂ : Halt} (h₁ : Halts graph steps start stations halt₁)
    (h₂ : Halts graph steps start stations halt₂) : halt₁ = halt₂ :=
  h₁.eq_ofTrail.trans h₂.eq_ofTrail.symm

/-- An execution waits after a walk if and only if the last station does. -/
theorem Halts.status_eq_waiting_iff (h : Halts graph steps start stations halt) :
    halt.status = .waiting ↔ ∃ station, stations.getLast? = some station ∧ station.Waits := by
  have hgoes : (∀ station, stations.getLast? = some station → station.Leaves) →
      ¬ ∃ station, stations.getLast? = some station ∧ station.Waits := by
    rintro hleaves ⟨station, hlast, hwaits⟩
    exact (hleaves station hlast).not_waits hwaits
  cases h with
  | waited hlast hwait => exact iff_of_true rfl ⟨_, hlast, _, _, hwait⟩
  | finished hlast hfinish =>
    refine iff_of_false nofun ?_
    rintro ⟨station, hother, reason, resumeAt, hwait⟩
    obtain rfl := Option.some.inj (hlast.symm.trans hother)
    rw [hfinish] at hwait
    cases hwait
  | deadEnd hleaves hnone => exact iff_of_false nofun (hgoes hleaves)
  | missing hid hnone => exact iff_of_false nofun (hgoes (leaves_of_heading hid))
  | limit hid hnode hlength => exact iff_of_false nofun (hgoes (leaves_of_heading hid))

/-- A walk that may take steps has no stations if and only if there is no node to begin with. -/
theorem Trail.eq_nil_iff (htrail : Trail graph recipient start scene stations)
    (hhalts : Halts graph steps start stations halt) (hsteps : 0 < steps) :
    stations = [] ↔ start.bind graph.node? = none := by
  cases stations with
  | nil =>
    refine iff_of_true rfl ?_
    cases hhalts with
    | waited hlast | finished hlast => cases hlast
    | deadEnd hleaves hnone =>
      obtain rfl : start = none := hnone
      rfl
    | missing hid hnone =>
      obtain rfl := hid
      exact hnone
    | limit hid hnode hlength =>
      rw [← hlength] at hsteps
      cases hsteps
  | cons station rest =>
    obtain ⟨⟨hnode, -⟩, -⟩ := trail_cons_iff.1 htrail
    rw [hnode]
    exact iff_of_false nofun nofun

/-! ## The trail of a walk -/

/-- The ends of a trail, after one more station before it. -/
theorem lastNode_cons (stood : Option String) :
    lastNode stood (station :: rest) = lastNode (some station.node.id) rest := by
  unfold lastNode
  rw [List.getLast?_cons]
  cases rest.getLast? <;> rfl

theorem lastScene_cons :
    lastScene scene (station :: rest) = lastScene station.after rest := by
  unfold lastScene
  rw [List.getLast?_cons]
  cases rest.getLast? <;> rfl

theorem Halt.walk_cons (halt : Halt) (stood : Option String) :
    halt.walk stood scene (station :: rest) =
      let after := halt.walk (some station.node.id) station.after rest
      { after with entries := station.entry :: after.entries } := by
  cases halt <;>
    simp only [walk, lastNode_cons, lastScene_cons, List.map_cons, List.cons_append]

/-- **A walk that does not fail leaves a trail**, and takes no more steps than it may. -/
theorem exists_trail {stood : Option String}
    (h : ∀ node cause, (walkFrom graph recipient steps start stood scene).ending ≠
      .failed node cause) :
    ∃ stations halt, Trail graph recipient start scene stations ∧
      Halts graph steps start stations halt ∧ stations.length ≤ steps := by
  fun_induction walkFrom graph recipient steps start stood scene with
  | case1 steps start stood scene hnone =>
    refine ⟨[], ?_⟩
    cases start with
    | none => exact ⟨.deadEnd, .nil, .deadEnd (by simp) rfl, Nat.zero_le _⟩
    | some id => exact ⟨.missing id, .nil, .missing rfl hnone, Nat.zero_le _⟩
  | case2 start stood scene node hnode =>
    obtain ⟨id, rfl, hid⟩ := Option.bind_eq_some_iff.1 hnode
    exact ⟨[], .limit node, .nil, .limit rfl hid rfl, Nat.zero_le _⟩
  | case3 start stood scene node hnode steps cause after hact => exact absurd rfl (h node cause)
  | case4 start stood scene node hnode steps result after hact entry reason resumeAt hwait =>
    let station : Station := ⟨node, scene, result, after⟩
    have hlast : [station].getLast? = some station := rfl
    refine ⟨[station], .waited node reason resumeAt, ?_, .waited hlast hwait, by simp⟩
    exact trail_cons_iff.2 ⟨⟨hnode, rfl, hact⟩, .nil⟩
  | case5 start stood scene node hnode steps result after hact entry hfinish =>
    let station : Station := ⟨node, scene, result, after⟩
    have hlast : [station].getLast? = some station := rfl
    refine ⟨[station], .finished, ?_, .finished hlast hfinish, by simp⟩
    exact trail_cons_iff.2 ⟨⟨hnode, rfl, hact⟩, .nil⟩
  | case6 start stood scene node hnode steps result after hact entry handle hleave target rest ih =>
    obtain ⟨stations, halt, htrail, hhalts, hlength⟩ := ih h
    let station : Station := ⟨node, scene, result, after⟩
    have htarget : station.target? graph = target := Station.target?_of_leave hleave
    rw [← htarget] at htrail hhalts
    refine ⟨station :: stations, halt, ?_, (halts_cons_iff ⟨handle, hleave⟩).2 hhalts, ?_⟩
    · exact trail_cons_iff.2 ⟨⟨hnode, rfl, hact⟩, htrail⟩
    · simp [hlength]

/-- **The trail tells all of the walk**: a walk that leaves it and stops for the reason is the one
that they make up. -/
theorem walkFrom_eq (htrail : Trail graph recipient start scene stations)
    (hhalts : Halts graph steps start stations halt) (hlength : stations.length ≤ steps)
    (stood : Option String) :
    walkFrom graph recipient steps start stood scene = halt.walk stood scene stations := by
  induction stations generalizing start scene steps stood with
  | nil =>
    cases hhalts with
    | waited hlast | finished hlast => cases hlast
    | deadEnd hleaves hnone =>
      obtain rfl : start = none := hnone
      rw [walkFrom]
      rfl
    | missing hid hnone =>
      obtain rfl := hid
      rw [walkFrom]
      simp only [Option.bind_some, hnone]
      rfl
    | limit hid hnode hzero =>
      obtain rfl := hid
      obtain rfl : steps = 0 := hzero.symm
      rw [walkFrom]
      simp only [Option.bind_some, hnode]
      rfl
  | cons station rest ih =>
    obtain ⟨⟨hnode, rfl, hact⟩, hrest⟩ := trail_cons_iff.1 htrail
    cases steps with
    | zero => cases hlength
    | succ steps =>
    have hshort : rest.length ≤ steps := Nat.le_of_succ_le_succ hlength
    rw [walkFrom, hnode]
    dsimp only
    rw [hact]
    dsimp only
    cases hnext : station.result.next with
    | leave handle =>
      have hcons := (halts_cons_iff ⟨handle, hnext⟩).1 hhalts
      have hwalk := ih hrest hcons hshort (some station.node.id)
      rw [Station.target?_of_leave hnext] at hwalk
      dsimp only
      rw [hwalk, Halt.walk_cons]
      rfl
    | wait reason resumeAt =>
      obtain rfl := hrest.eq_nil fun hleaves => hleaves.not_waits ⟨_, _, hnext⟩
      have hhalt : halt = .waited station.node reason resumeAt := by
        simpa only [Halt.ofTrail, List.getLast?_singleton, hnext] using hhalts.eq_ofTrail
      rw [hhalt]
      rfl
    | finish =>
      obtain rfl := hrest.eq_nil fun hleaves => hleaves.next_ne_finish hnext
      have hhalt : halt = .finished := by
        simpa only [Halt.ofTrail, List.getLast?_singleton, hnext] using hhalts.eq_ofTrail
      rw [hhalt]
      rfl

end

/-! ## What is stored of a walk -/

/-- What a walk changes that leaves a trail. -/
theorem Halt.patch?_walk {graph : FlowGraph} {steps : Nat} {start stood : Option String}
    {scene : Scene} {stations : List Station} {halt : Halt} {now : Moment} {patch : Patch}
    (hhalts : Halts graph steps start stations halt)
    (h : (halt.walk stood scene stations).patch? now = .ok patch) :
    patch.status = some halt.status ∧ patch.currentNode = some (lastNode stood stations) ∧
      patch.vars = some (lastScene scene stations).env.vars := by
  cases hhalts with
  | waited hlast hwait =>
    simp only [Walk.patch?, walk] at h
    split at h
    · cases h
    · cases h
      refine ⟨rfl, ?_, rfl⟩
      rw [lastNode, hlast]
      rfl
  | finished | deadEnd | missing | limit =>
    cases h
    exact ⟨rfl, rfl, rfl⟩

/-- **What submitting a checkpoint comes to**: a conflict that changes nothing if no row is in the
version that was read, and otherwise this row with what the patch changes, and the entries in the
log. -/
theorem Work.exec_submit_cases (c : Checkpoint) {w : World} (hs : w.executions.Sound) :
    ((∀ row ∈ w.executions.rows, Executions.isHeld c.held row = false) ∧
      (submit c).exec w = (.ok ⟨.conflict, some c.held.id, none⟩, w)) ∨
    ∃ row ∈ w.executions.rows, Executions.isHeld c.held row = true ∧ ∃ w₁,
      (submit c).exec w =
        (.ok ⟨c.action, some c.held.id, some (c.patch.apply c.held).status⟩, w₁) ∧
      w₁.executions.logs = w.executions.logs ++ c.entries.map (c.held.id, ·) ∧
      w₁.executions.get? c.held.id = some (c.patch.apply row) := by
  rw [exec_submit, Executions.update?_eq]
  by_cases hany : w.executions.rows.any (Executions.isHeld c.held) = true
  · obtain ⟨row, hrow, hheld⟩ := List.any_eq_true.1 hany
    rw [if_pos hany]
    refine .inr ⟨row, hrow, hheld, _, rfl, rfl, ?_⟩
    refine (hs.written c.held c.patch c.entries).get?_eq_some_iff.2 ⟨?_, ?_⟩
    · exact List.mem_map.2 ⟨row, hrow, if_pos hheld⟩
    · exact (Executions.isHeld_iff.1 hheld).1
  · rw [if_neg hany]
    exact .inl ⟨by simpa using hany, rfl⟩

namespace Leg

variable {leg : Leg} {w w₁ w₂ w₃ : World} {c : Checkpoint} {outcome : Outcome}

/-- The work of a walk that comes to a checkpoint leaves a trail, of which the checkpoint tells. -/
theorem exists_trail_of_draft (h : leg.draft.exec w = (.ok c, w₁)) :
    ∃ stations halt,
      Trail leg.graph leg.recipient leg.next ⟨leg.env, w.outside⟩ stations ∧
      Halts leg.graph (stepsOfLimit w.stepLimit) leg.next stations halt ∧
      stations.length ≤ stepsOfLimit w.stepLimit ∧
      c.held = leg.held ∧
      c.entries = leg.before ++ (stations.map (·.entry) ++ halt.entries) ∧
      c.patch.status = some halt.status ∧
      c.patch.currentNode = some (lastNode leg.held.currentNode stations) ∧
      c.patch.vars = some (lastScene ⟨leg.env, w.outside⟩ stations).env.vars := by
  rw [exec_draft] at h
  cases hpatch : leg.patch? w with
  | error failure =>
    rw [hpatch] at h
    cases h
  | ok patch =>
  rw [hpatch] at h
  cases h
  have hgoes : ∀ node cause, (leg.walk w).ending ≠ .failed node cause := by
    intro node cause hfailed
    rcases Walk.patch?_ok hpatch with ⟨_, _, _, hend, -⟩ | ⟨⟨_, hend⟩, -⟩ <;>
      exact nomatch hfailed.symm.trans hend
  obtain ⟨stations, halt, htrail, hhalts, hlength⟩ := exists_trail hgoes
  have hwalk : leg.walk w = halt.walk leg.held.currentNode ⟨leg.env, w.outside⟩ stations :=
    walkFrom_eq htrail hhalts hlength _
  rw [patch?, hwalk] at hpatch
  refine ⟨stations, halt, htrail, hhalts, hlength, rfl, ?_, Halt.patch?_walk hhalts hpatch⟩
  rw [entries, hwalk]
  rfl

/-- **What is stored of a walk is its trail.** If a walk with a positive limit comes to a checkpoint
and the checkpoint is written, whatever happened meanwhile, then the nodes that it dispatched make
up a trail from its start, of at most as many stations as the limit, and none only if there is no
node to begin with. All but the last are left on an edge to the next, and after the last the walk
stopped for exactly one reason. The log has the entries of the stations after those before, and one
more if the limit was reached. The execution waits if and only if the last station does and is
completed otherwise; it stands at the last station, with the variables as that left them. -/
theorem stored_trail (hlimit : 0 < w.stepLimit) (hdraft : leg.draft.exec w = (.ok c, w₁))
    (hs : w₂.executions.Sound) (hsubmit : (Work.submit c).exec w₂ = (.ok outcome, w₃))
    (hkept : outcome.status ≠ none) :
    ∃ stations halt,
      Trail leg.graph leg.recipient leg.next ⟨leg.env, w.outside⟩ stations ∧
      (∀ station ∈ stations.dropLast, station.Leaves) ∧
      (∀ other, Halts leg.graph w.stepLimit.toNat leg.next stations other ↔ other = halt) ∧
      stations.length ≤ w.stepLimit.toNat ∧
      (stations = [] ↔ leg.next.bind leg.graph.node? = none) ∧
      w₃.executions.logs = w₂.executions.logs ++
        (leg.before ++ (stations.map (·.entry) ++ halt.entries)).map (leg.held.id, ·) ∧
      ∃ row, w₃.executions.get? leg.held.id = some row ∧
        row.status = halt.status ∧
        (halt.status = .waiting ↔
          ∃ station, stations.getLast? = some station ∧ station.Waits) ∧
        row.currentNode = lastNode leg.held.currentNode stations ∧
        row.vars = (lastScene ⟨leg.env, w.outside⟩ stations).env.vars := by
  have hsteps : stepsOfLimit w.stepLimit = w.stepLimit.toNat := if_neg (by omega)
  obtain ⟨stations, halt, htrail, hhalts, hlength, hheld, hentries, hstatus, hnode, hvars⟩ :=
    exists_trail_of_draft hdraft
  rw [hsteps] at hhalts hlength
  have hpositive : 0 < w.stepLimit.toNat := by omega
  have honly : ∀ other, Halts leg.graph w.stepLimit.toNat leg.next stations other ↔ other = halt :=
    fun other => ⟨fun h => h.unique hhalts, fun he => he ▸ hhalts⟩
  refine ⟨stations, halt, htrail, htrail.leaves, honly, hlength,
    htrail.eq_nil_iff hhalts hpositive, ?_⟩
  rcases Work.exec_submit_cases c hs with ⟨-, hconflict⟩ | ⟨row, -, -, w₁, hexec, hlogs, hget⟩
  · rw [hconflict] at hsubmit
    cases hsubmit
    exact absurd rfl hkept
  · rw [hexec] at hsubmit
    cases hsubmit
    rw [hheld] at hlogs hget
    rw [hentries] at hlogs
    refine ⟨hlogs, c.patch.apply row, hget, ?_, hhalts.status_eq_waiting_iff, ?_, ?_⟩
    · simp only [Patch.apply, hstatus, Option.getD_some]
    · simp only [Patch.apply, hnode, Option.getD_some]
    · simp only [Patch.apply, hvars, Option.getD_some]

end Leg

/-- A flow of which two nodes of no known type lead to each other. -/
def circleGraph : FlowGraph where
  nodes := [⟨"t", "trigger", .null⟩, ⟨"a", "note", .null⟩, ⟨"b", "note", .null⟩]
  edges := [⟨"t", "a", none, 0⟩, ⟨"a", "b", none, 1⟩, ⟨"b", "a", none, 2⟩]

/-- A world that offers the flow, in which walks take three steps. -/
def circleWorld : World :=
  { World.offering ⟨"f", some "c", .anyMessage, 0, true, true⟩ circleGraph with stepLimit := 3 }

/-- The walk from the trigger, with a new execution. -/
def circleLeg : Leg where
  graph := circleGraph
  held := Executions.empty.newRow "f" "x" (some "c") (some "t") []
  credentials := ⟨none, none⟩
  env := .ofVariables []
  next := some "a"
  before := []
  action := .started

/-- The walk goes round until it has taken three steps, and its trail is stored. -/
theorem stored_trail_circle :
    ∃ (store : Executions) (stations : List Station) (halt : Halt),
      Trail circleGraph circleLeg.recipient (some "a") ⟨circleLeg.env, circleWorld.outside⟩
        stations ∧
      stations.length ≤ 3 ∧
      store.logs = (stations.map (·.entry) ++ halt.entries).map ("exec-1", ·) ∧
      store.logs.map (·.2.node) = [some "a", some "b", some "a", some "b"] := by
  let w := circleWorld.withRow circleLeg.held
  have hempty : circleWorld.executions.Sound := .of_rows_nil rfl
  have hs : w.executions.Sound := hempty.create "f" "x" (some "c") (some "t") []
  have hrun : (circleLeg.draft.exec w).1.map (fun c =>
      (((Work.submit c).exec w).1.map (·.status),
        ((Work.submit c).exec w).2.executions.logs.map (·.2.node))) =
      .ok (.ok (some .completed), [some "a", some "b", some "a", some "b"]) := by cbv
  rcases hdraft : circleLeg.draft.exec w with ⟨failure | c, w₁⟩
  · rw [hdraft] at hrun
    cases hrun
  rcases hsubmit : (Work.submit c).exec w with ⟨failure | outcome, w₃⟩
  · rw [hdraft, Except.map, hsubmit] at hrun
    cases hrun
  rw [hdraft, Except.map, hsubmit] at hrun
  obtain ⟨hstatus, hlogs⟩ := Prod.mk.inj (Except.ok.inj hrun)
  have hcompleted : outcome.status = some .completed := Except.ok.inj hstatus
  have hkept : outcome.status ≠ none := by
    rw [hcompleted]
    exact Option.some_ne_none _
  obtain ⟨stations, halt, htrail, -, -, hlength, -, hstored, -⟩ :=
    Leg.stored_trail (by decide) hdraft hs hsubmit hkept
  exact ⟨w₃.executions, stations, halt, htrail, hlength, hstored, hlogs⟩

end ChatFlow

import ChatFlow.Proofs.Engine.Plan
import ChatFlow.Proofs.Engine.Wakeups

/-!
# Events and what they do to an execution

Invocations come one after the other, and between them the world changes in anything but the
executions: flows are edited, time passes. `World.next` is the world after one such event and
`World.play` after a list of them. Wake-up calls come in any order and for any version, whether they
were asked for or not.

Main statement: `World.treats_next` tells all that an event can do to a row of the store. It keeps
the row, or it notes a message that came during a timer, or it commits a walk.
-/

namespace ChatFlow

/-! ## Carrying out a walk -/

/-- What a walk that did not fail changes in its execution. -/
def Walk.patch? (walk : Walk) (now : Moment) : Except Failure Patch :=
  match walk.ending with
  | .failed node cause => .error (.node node.id node.type cause)
  | .parked node reason resumeAt =>
    match resumeAt.mapM (·.instant) with
    | .error fault => .error (.fault fault)
    | .ok resumeAt =>
      .ok { status := some .waiting, waitingFor := some (some reason),
            currentNode := some (some node), vars := some walk.scene.env.vars,
            resumeAt := some resumeAt }
  | .completed last =>
    .ok { status := some .completed, waitingFor := some none, resumeAt := some none,
          currentNode := some last, vars := some walk.scene.env.vars,
          completedAt := some (some now) }

/-- The executions after a walk, of which nothing is written yet: a walk that failed is logged. -/
def Walk.logged (walk : Walk) (held : Execution) (executions : Executions) : Executions :=
  match walk.ending with
  | .failed node cause => executions.appendLog held.id (node.errorEntry cause)
  | .parked .. | .completed _ => executions

theorem Walk.logged_keeps (walk : Walk) (held : Execution) (executions : Executions) :
    executions.Keeps (walk.logged held executions) := by
  unfold logged
  split <;> exact ⟨rfl, Nat.le_refl _⟩

/-- A walk that is written leaves its execution waiting where it parked, or completed. -/
theorem Walk.patch?_ok {walk : Walk} {now : Moment} {patch : Patch}
    (h : walk.patch? now = .ok patch) :
    (∃ id reason resumeAt, walk.ending = .parked id reason resumeAt ∧
      patch.status = some .waiting ∧ patch.currentNode = some (some id)) ∨
    ((∃ last, walk.ending = .completed last) ∧ patch.status = some .completed) := by
  unfold patch? at h
  split at h
  · cases h
  · next id reason resumeAt he =>
    split at h
    · cases h
    · cases h
      exact .inl ⟨id, reason, resumeAt, he, rfl, rfl⟩
  · next last he =>
    cases h
    exact .inr ⟨⟨last, he⟩, rfl⟩

/-- A walk is not written if a node failed or the moment at which to go on cannot be told. -/
theorem Walk.patch?_error {walk : Walk} {now : Moment} {failure : Failure}
    (h : walk.patch? now = .error failure) :
    (∃ node cause, walk.ending = .failed node cause ∧ failure = .node node.id node.type cause) ∨
      ∃ fault, failure = .fault fault := by
  unfold patch? at h
  split at h
  · next node cause he =>
    cases h
    exact .inl ⟨node, cause, he, rfl⟩
  · split at h
    · next fault _ =>
      cases h
      exact .inr ⟨fault, rfl⟩
    · cases h
  · cases h

/-- The end of a walk makes a checkpoint of what the walk changes. -/
theorem Work.exec_settle (held : Execution) (action : Action) (walk : Walk)
    (before : List LogEntry) (w : World) :
    (settle held action walk before).exec w =
      ((walk.patch? walk.scene.outside.clock.now).map fun patch =>
        ⟨held, patch, before ++ walk.entries, action⟩,
        { w with
          outside := walk.scene.outside
          executions := walk.logged held w.executions }) := by
  obtain ⟨ending, entries, scene⟩ := walk
  simp only [settle, exec_bind, exec_modify, proceed_ok, Walk.patch?, Walk.logged]
  cases ending with
  | failed node cause => rfl
  | parked node reason resumeAt =>
    simp only [exec_bind, exec_liftM]
    cases (resumeAt.mapM (·.instant) : Except Fault (Option Moment)) <;> rfl
  | completed last => rfl

namespace Leg

variable {leg : Leg} {w : World}

/-- The world after a walk, of which nothing is written yet. -/
def walked (leg : Leg) (w : World) : World :=
  { w with
    outside := (leg.walk w).scene.outside
    executions := (leg.walk w).logged leg.held w.executions }

/-- What is logged of a walk. -/
def entries (leg : Leg) (w : World) : List LogEntry := leg.before ++ (leg.walk w).entries

/-- What a walk changes, or why it failed. -/
def patch? (leg : Leg) (w : World) : Except Failure Patch :=
  (leg.walk w).patch? (leg.walked w).outside.clock.now

/-- A walk of which nothing is written yet keeps the rows of the store. -/
theorem keeps_walked (leg : Leg) (w : World) : w.executions.Keeps (leg.walked w).executions :=
  (leg.walk w).logged_keeps leg.held w.executions

/-- A walk leaves the clock alone. -/
theorem clock_walked (leg : Leg) (w : World) :
    (leg.walked w).outside.clock = w.outside.clock :=
  (walkFrom_precedes leg.graph leg.recipient _ leg.next leg.held.currentNode _).clock

/-- The work of a walk makes a checkpoint of what the walk changes. -/
theorem exec_draft (leg : Leg) (w : World) :
    leg.draft.exec w =
      ((leg.patch? w).map fun patch => ⟨leg.held, patch, leg.entries w, leg.action⟩,
        leg.walked w) := by
  simp only [draft, Work.run, Work.exec_bind, Work.exec_get, Work.proceed_ok]
  exact Work.exec_settle leg.held leg.action (leg.walk w) leg.before w

end Leg

/-- The world after a row of it was written. -/
def World.withWritten (w : World) (held : Execution) (patch : Patch) (entries : List LogEntry) :
    World :=
  { w with
    executions := w.executions.written held patch entries
    timers := if (patch.apply held).waitsForTimer then
        w.timers.ask (patch.apply held) (timeLeft w.outside.clock.now (patch.apply held).resumeAt)
      else w.timers }

/-- A checkpoint for a row of the store is written. -/
theorem Work.exec_submit_of_mem {c : Checkpoint} {w : World} (h : c.held ∈ w.executions.rows) :
    (submit c).exec w =
      (.ok ⟨c.action, some c.held.id, some (c.patch.apply c.held).status⟩,
        w.withWritten c.held c.patch c.entries) := by
  have hany : w.executions.rows.any (Executions.isHeld c.held) = true :=
    List.any_eq_true.2 ⟨c.held, h, Executions.isHeld_iff.2 ⟨rfl, rfl⟩⟩
  rw [exec_submit, Executions.update?_eq, if_pos hany]
  rfl

namespace Plan

variable {w : World}

/-- **A walk with a row of the store is written** unless it fails. -/
theorem exec_walk {leg : Leg} (h : leg.held ∈ w.executions.rows) :
    (Plan.walk leg).carryOut.exec w =
      match leg.patch? w with
      | .error failure => (.error failure, leg.walked w)
      | .ok patch =>
        (.ok ⟨leg.action, some leg.held.id, some (patch.apply leg.held).status⟩,
          (leg.walked w).withWritten leg.held patch (leg.entries w)) := by
  have hmem : leg.held ∈ (leg.walked w).executions.rows := (leg.keeps_walked w).rows ▸ h
  rw [carryOut, Work.exec_bind, Leg.exec_draft]
  cases leg.patch? w with
  | error failure => rfl
  | ok patch => exact Work.exec_submit_of_mem hmem

/-- A message that comes during a timer is noted. -/
theorem exec_note {held : Execution} (message : InboundMessage) (h : held ∈ w.executions.rows) :
    (Plan.note held message).carryOut.exec w =
      (.ok ⟨.ignored, some held.id, some held.status⟩,
        w.withWritten held { vars := some (held.after message) }
          (Work.recordDuringTimer held message).entries) :=
  Work.exec_submit_of_mem (c := Work.recordDuringTimer held message) h

end Plan

/-! ## The rows of a walk -/

namespace SetsOut

variable {w w' : World} {call : Invocation} {leg : Leg}

/-- Before a walk, nothing has happened outside. -/
theorem outside_eq (h : SetsOut w call leg w') : w'.outside = w.outside := by
  cases h <;> rfl

theorem flows_eq (h : SetsOut w call leg w') : w'.flows = w.flows := by
  cases h <;> rfl

/-- The store is sound when a walk sets out. -/
theorem sound (h : SetsOut w call leg w') (hs : w.executions.Sound) : w'.executions.Sound := by
  cases h with
  | reply credentials attempts ha | stranded credentials attempts ha
  | restart credentials attempts ha => exact hs.keeps ⟨rfl, ha⟩
  | departure hc hg ht ha hnew =>
    exact World.Opens.sound ⟨_, _, hg, ht, ha, hnew⟩ hs
  | timer => exact hs

/-- A walk is taken with a row of the store. -/
theorem held_mem (h : SetsOut w call leg w') : leg.held ∈ w'.executions.rows := by
  cases h with
  | reply credentials attempts ha hheld | stranded credentials attempts ha hheld
  | restart credentials attempts ha hheld => exact hheld
  | departure => exact List.mem_append_right _ (List.mem_singleton_self _)
  | timer credentials hc hheld => exact hheld

/-- The store is sound while nothing of a walk is written yet. -/
theorem sound_walked (h : SetsOut w call leg w') (hs : w.executions.Sound) :
    (leg.walked w').executions.Sound :=
  (h.sound hs).keeps (leg.keeps_walked w')

/-- The row with which a walk was taken is there until the walk is written. -/
theorem held_mem_walked (h : SetsOut w call leg w') :
    leg.held ∈ (leg.walked w').executions.rows :=
  (leg.keeps_walked w').rows ▸ h.held_mem

/-- The rows of the store are there when a walk sets out. -/
theorem mem_of_mem (h : SetsOut w call leg w') {row : Execution} (hrow : row ∈ w.executions.rows) :
    row ∈ w'.executions.rows := by
  cases h with
  | departure => exact List.mem_append_left _ hrow
  | reply | stranded | restart | timer => exact hrow

/-- When a walk sets out, the rows of the store are there, and the one with which it is taken. -/
theorem mem_or_eq (h : SetsOut w call leg w')
    {row : Execution} (hrow : row ∈ w'.executions.rows) :
    row ∈ w.executions.rows ∨ row = leg.held := by
  cases h with
  | departure =>
    rcases List.mem_append.1 hrow with hold | hnew
    · exact .inl hold
    · exact .inr (List.mem_singleton.1 hnew)
  | reply | stranded | restart | timer => exact .inl hrow

/-- A walk is taken with an active row of the store, or with a new one that stands at the trigger.
-/
theorem active_or_new (h : SetsOut w call leg w') :
    (leg.held ∈ w.executions.rows ∧ leg.held.status.isActive = true) ∨
      ∃ trigger, leg.graph.trigger? = some trigger ∧ leg.held.currentNode = some trigger.id ∧
        leg.held.status = .running := by
  cases h with
  | reply credentials attempts ha hheld hb hs | stranded credentials attempts ha hheld hb hs
  | restart credentials attempts ha hheld hb hs =>
    exact .inl ⟨hheld, congrArg ExecutionStatus.isActive hs⟩
  | @departure departure flow channel customer message initial hc hg ht ha hnew =>
    exact .inr ⟨departure.trigger, ht, congrArg Execution.currentNode hnew,
      congrArg Execution.status hnew⟩
  | timer credentials hc hheld hw =>
    exact .inl ⟨hheld, congrArg ExecutionStatus.isActive (Execution.waitsForTimer_iff.1 hw).1⟩

/-- A walk is taken in the graph of the flow of its execution. -/
theorem load?_eq (h : SetsOut w call leg w') :
    w.flows.load? leg.held.flowId = some leg.graph := by
  cases h with
  | reply credentials attempts ha hheld hb hs ht hg => exact hg
  | stranded credentials attempts ha hheld hb hs ht hg => exact hg
  | restart credentials attempts ha hheld hb hs hg => exact hg
  | departure hc hg ht ha hnew =>
    exact (congrArg (w.flows.load? ·.flowId) hnew).trans hg
  | timer credentials hc hheld hw hv hl hg => exact hg

end SetsOut

/-! ## What an invocation makes of the world -/

/-- The walk of a plan, if it is one, and the world in which it is taken. -/
def Plan.leg? : Plan × World → Option (Leg × World)
  | (.walk leg, w) => some (leg, w)
  | _ => none

/-- All that an invocation can come to, and what it makes of the world. -/
inductive Invocation.Makes (w : World) (call : Invocation) :
    Except Failure Outcome × World → Prop where
  /-- Nothing is written; an attempt may be used up and a call be asked for again. -/
  | nothing (result : Except Failure Outcome) (attempts : Nat) (timers : Timers)
      (ha : w.executions.attempts ≤ attempts) (hleg : Plan.leg? (call.plan w) = none) :
      Makes w call (result, { w.withAttempts attempts with timers })
  /-- A message is noted that came during a timer. -/
  | note (held : Execution) (message : InboundMessage) (attempts : Nat)
      (ha : w.executions.attempts ≤ attempts) (hheld : held ∈ w.executions.rows)
      (hb : call.Brings message held) (hw : held.waitsForTimer = true)
      (hleg : Plan.leg? (call.plan w) = none) :
      Makes w call (.ok ⟨.ignored, some held.id, some held.status⟩,
        (w.withAttempts attempts).withWritten held { vars := some (held.after message) }
          (Work.recordDuringTimer held message).entries)
  /-- A walk failed, and nothing of it is written. -/
  | failure (leg : Leg) (w' : World) (failure : Failure) (hplan : call.plan w = (.walk leg, w'))
      (hl : SetsOut w call leg w') (hp : leg.patch? w' = .error failure) :
      Makes w call (.error failure, leg.walked w')
  /-- A walk is written. -/
  | walk (leg : Leg) (w' : World) (patch : Patch) (hplan : call.plan w = (.walk leg, w'))
      (hl : SetsOut w call leg w') (hp : leg.patch? w' = .ok patch) :
      Makes w call (.ok ⟨leg.action, some leg.held.id, some (patch.apply leg.held).status⟩,
        (leg.walked w').withWritten leg.held patch (leg.entries w'))

/-- **Every invocation comes to one of these.** -/
theorem Invocation.makes (call : Invocation) (w : World) :
    call.Makes w (call.perform.exec w) := by
  have hplanned := call.planned w
  rcases hplan : call.plan w with ⟨plan, w'⟩
  have hleg : Plan.leg? (call.plan w) = Plan.leg? (plan, w') := by rw [hplan]
  rw [hplan] at hplanned
  rw [call.perform_eq_plan, hplan]
  cases hplanned with
  | answer outcome attempts timers ha => exact .nothing _ attempts timers ha hleg
  | refuse failure hf => exact .nothing _ w.executions.attempts w.timers (Nat.le_refl _) hleg
  | block flow failure attempts ha hb => exact .nothing _ attempts w.timers ha hleg
  | note held message attempts ha hheld hb hw =>
    rw [Plan.exec_note message (w := w.withAttempts attempts) hheld]
    exact .note held message attempts ha hheld hb hw hleg
  | walk leg w' hl =>
    rw [Plan.exec_walk hl.held_mem]
    cases hp : leg.patch? w' with
    | error failure => exact .failure leg w' failure hplan hl hp
    | ok patch => exact .walk leg w' patch hplan hl hp

/-! ## Failures -/

/-- Why an invocation fails. -/
inductive Invocation.FailsBy (w : World) (call : Invocation) : Failure → Prop where
  | refused (kind : String) (w' : World)
      (hplan : call.plan w = (.refuse (.textOfKind kind), w')) :
      FailsBy w call (.textOfKind kind)
  | blocked {flow : String} {failure : Failure} (w' : World)
      (hplan : call.plan w = (.block flow failure, w')) (hb : w.Blocks flow failure) :
      FailsBy w call failure
  | node {leg : Leg} {w' : World} {node : FlowNode} {cause : Failure}
      (hplan : call.plan w = (.walk leg, w')) (hl : SetsOut w call leg w')
      (he : (leg.walk w').ending = .failed node cause) :
      FailsBy w call (.node node.id node.type cause)
  /-- The moment at which to go on cannot be told. -/
  | moment {leg : Leg} {w' : World} (fault : Fault) (hplan : call.plan w = (.walk leg, w'))
      (hl : SetsOut w call leg w') : FailsBy w call (.fault fault)

/-- **Why an invocation fails**, if it fails. -/
theorem Invocation.failsBy {w : World} {call : Invocation} {failure : Failure}
    (h : (call.perform.exec w).1 = .error failure) : call.FailsBy w failure := by
  have hplanned := call.planned w
  rcases hplan : call.plan w with ⟨plan, w'⟩
  rw [hplan] at hplanned
  rw [call.perform_eq_plan, hplan] at h
  cases hplanned with
  | answer outcome attempts timers ha => cases h
  | refuse failure hf =>
    obtain ⟨kind, rfl⟩ := hf
    cases h
    exact .refused kind _ hplan
  | block flow failure attempts ha hb =>
    cases h
    exact .blocked _ hplan hb
  | note held message attempts ha hheld hb hw =>
    rw [Plan.exec_note message (w := w.withAttempts attempts) hheld] at h
    cases h
  | walk leg w' hl =>
    rw [Plan.exec_walk hl.held_mem] at h
    cases hp : leg.patch? w' with
    | ok patch =>
      rw [hp] at h
      cases h
    | error found =>
      rw [hp] at h
      cases h
      rcases Walk.patch?_error hp with ⟨node, cause, he, rfl⟩ | ⟨fault, rfl⟩
      · exact .node hplan hl he
      · exact .moment fault hplan hl

/-! ## Events -/

/-- What can happen next: the engine is invoked, or anything but the executions changes. That time
passes is such a change. -/
inductive Event where
  | invoke (call : Invocation)
  | change (world : World)

namespace World

/-- The world after an event. -/
def next (w : World) : Event → World
  | .invoke call => (call.perform.exec w).2
  | .change world => { world with executions := w.executions }

/-- The world after events, one after the other. -/
def play (w : World) (events : List Event) : World := events.foldl next w

/-- Whether each event of a run has a property in the world in which it happens. -/
def Throughout (P : World → Event → Prop) : World → List Event → Prop
  | _, [] => True
  | w, event :: rest => P w event ∧ Throughout P (w.next event) rest

/-- The walk that an event sets out on, if it does, and the world in which it is taken. -/
def walk? (w : World) : Event → Option (Leg × World)
  | .invoke call => Plan.leg? (call.plan w)
  | .change _ => none

/-- The nodes whose work an event begins on behalf of an execution, in order. -/
def dispatched (w : World) (id : String) (event : Event) : List FlowNode :=
  match w.walk? event with
  | some (leg, w') =>
    if leg.held.id = id then (leg.itinerary w').filterMap Waypoint.visited? else []
  | none => []

/-- Whether an event commits a walk of an execution. -/
def Commits (w : World) (id : String) (event : Event) : Prop :=
  ∃ leg w' patch, w.walk? event = some (leg, w') ∧ leg.held.id = id ∧ leg.patch? w' = .ok patch

variable {w w' : World} {event : Event} {leg : Leg}

/-- An invocation that plans a walk sets out on it. -/
theorem walk?_of_plan {call : Invocation} (h : call.plan w = (.walk leg, w')) :
    w.walk? (.invoke call) = some (leg, w') := by
  rw [walk?, h]
  rfl

/-- An event that sets out on a walk is an invocation that planned it. -/
theorem walk?_some (h : w.walk? event = some (leg, w')) :
    ∃ call, event = .invoke call ∧ call.plan w = (.walk leg, w') ∧ SetsOut w call leg w' := by
  cases event with
  | change world => cases h
  | invoke call =>
    rcases hplan : call.plan w with ⟨plan, after⟩
    rw [walk?, hplan] at h
    cases plan with
    | walk leg =>
      cases h
      exact ⟨call, rfl, hplan, call.setsOut hplan⟩
    | answer | refuse | block | note => cases h

/-- The world after an event that sets out on a walk. -/
theorem next_of_walk? (h : w.walk? event = some (leg, w')) :
    w.next event =
      match leg.patch? w' with
      | .error _ => leg.walked w'
      | .ok patch => (leg.walked w').withWritten leg.held patch (leg.entries w') := by
  obtain ⟨call, rfl, hplan, hl⟩ := walk?_some h
  rw [next, call.perform_eq_plan, hplan, Plan.exec_walk hl.held_mem]
  cases leg.patch? w' <;> rfl

/-- An event that sets out on no walk commits none. -/
theorem not_commits_of_walk?_eq_none {id : String} (h : w.walk? event = none) :
    ¬ w.Commits id event := by
  rintro ⟨leg, w', patch, hwalk, -⟩
  rw [h] at hwalk
  cases hwalk

/-- An event commits no other walk than that on which it sets out. -/
theorem commits_iff_of_walk? {id : String} (h : w.walk? event = some (leg, w')) :
    w.Commits id event ↔ leg.held.id = id ∧ ∃ patch, leg.patch? w' = .ok patch := by
  constructor
  · rintro ⟨other, after, patch, hwalk, hid, hpatch⟩
    rw [h] at hwalk
    cases hwalk
    exact ⟨hid, patch, hpatch⟩
  · rintro ⟨hid, patch, hpatch⟩
    exact ⟨leg, w', patch, h, hid, hpatch⟩

/-- What an event can make of a row of the store. -/
inductive Treats (w : World) (event : Event) (row : Execution) : Execution → Prop where
  | keeps (hno : ¬ w.Commits row.id event) : Treats w event row row
  /-- A message comes during a timer. -/
  | notes {call : Invocation} {message : InboundMessage} (he : event = .invoke call)
      (hb : call.Brings message row) (hw : row.waitsForTimer = true)
      (hno : ¬ w.Commits row.id event) :
      Treats w event row (Patch.apply { vars := some (row.after message) } row)
  | walks {leg : Leg} {w' : World} {patch : Patch} (hwalk : w.walk? event = some (leg, w'))
      (hheld : leg.held = row) (hp : leg.patch? w' = .ok patch) :
      Treats w event row (patch.apply row)

/-- **All that an event can do to a row.** -/
theorem treats_next (hs : w.executions.Sound) {row : Execution} (hrow : row ∈ w.executions.rows)
    (event : Event) :
    ∃ after, (w.next event).executions.get? row.id = some after ∧ w.Treats event row after := by
  have hkept : ∀ store : Executions, store.rows = w.executions.rows →
      store.get? row.id = some row := by
    intro store hrows
    rw [Executions.get?, hrows]
    exact hs.get?_eq_some_iff.2 ⟨hrow, rfl⟩
  cases event with
  | change world => exact ⟨row, hkept _ rfl, .keeps (not_commits_of_walk?_eq_none rfl)⟩
  | invoke call =>
  have hmakes := call.makes w
  rw [next]
  generalize call.perform.exec w = made at hmakes
  cases hmakes with
  | nothing result attempts timers ha hleg =>
    exact ⟨row, hkept _ rfl, .keeps (not_commits_of_walk?_eq_none hleg)⟩
  | note held message attempts ha hheld hb hw hleg =>
    have hno : ¬ w.Commits row.id (.invoke call) := not_commits_of_walk?_eq_none hleg
    have hs' : (w.withAttempts attempts).executions.Sound := hs.keeps ⟨rfl, ha⟩
    have hheld' : held ∈ (w.withAttempts attempts).executions.rows := hheld
    dsimp only [withWritten]
    rw [hs'.get?_written hheld']
    by_cases hid : row.id = held.id
    · obtain rfl := hs.eq_of_id hrow hheld hid
      rw [if_pos rfl]
      exact ⟨_, rfl, .notes rfl hb hw hno⟩
    · rw [if_neg hid]
      exact ⟨row, hkept _ rfl, .keeps hno⟩
  | failure leg w' failure hplan hl hp =>
    have hwalk := walk?_of_plan hplan
    have hrow' : row ∈ (leg.walked w').executions.rows :=
      (leg.keeps_walked w').rows ▸ hl.mem_of_mem hrow
    refine ⟨row, (hl.sound_walked hs).get?_eq_some_iff.2 ⟨hrow', rfl⟩, .keeps fun hc => ?_⟩
    obtain ⟨-, patch, hpatch⟩ := (commits_iff_of_walk? hwalk).1 hc
    rw [hp] at hpatch
    cases hpatch
  | walk leg w' patch hplan hl hp =>
    have hwalk := walk?_of_plan hplan
    have hs' := hl.sound_walked hs
    have hheld' := hl.held_mem_walked
    have hrow' : row ∈ (leg.walked w').executions.rows :=
      (leg.keeps_walked w').rows ▸ hl.mem_of_mem hrow
    dsimp only [withWritten]
    rw [hs'.get?_written hheld']
    by_cases hid : row.id = leg.held.id
    · have hsame := hs'.eq_of_id hheld' hrow' hid.symm
      rw [if_pos hid, hsame]
      exact ⟨_, rfl, .walks hwalk hsame hp⟩
    · rw [if_neg hid]
      exact ⟨row, hs'.get?_eq_some_iff.2 ⟨hrow', rfl⟩, .keeps fun hc =>
        hid ((commits_iff_of_walk? hwalk).1 hc).1.symm⟩

/-- Where a row comes from that is there after an event: it was there, or something was noted to it,
or a walk was taken with it. -/
inductive Stems (w : World) (event : Event) (after : Execution) : Prop where
  | keeps (h : after ∈ w.executions.rows)
  | notes (row : Execution) (vars : Object) (h : row ∈ w.executions.rows)
      (he : after = Patch.apply { vars := some vars } row)
  /-- The walk failed. -/
  | held (leg : Leg) (w' : World) (hwalk : w.walk? event = some (leg, w')) (he : after = leg.held)
  | walks (leg : Leg) (w' : World) (patch : Patch) (hwalk : w.walk? event = some (leg, w'))
      (hp : leg.patch? w' = .ok patch) (he : after = patch.apply leg.held)

/-- **Every row that is there after an event** stems from one before it or from a walk. -/
theorem stems_of_mem_next (hs : w.executions.Sound) {after : Execution}
    (h : after ∈ (w.next event).executions.rows) : w.Stems event after := by
  cases event with
  | change world => exact .keeps h
  | invoke call =>
  have hmakes := call.makes w
  rw [next] at h
  generalize call.perform.exec w = made at hmakes h
  have hwalked : ∀ {leg : Leg} {w' : World}, call.plan w = (.walk leg, w') →
      SetsOut w call leg w' → ∀ row ∈ (leg.walked w').executions.rows,
        w.Stems (.invoke call) row := by
    intro leg w' hplan hl row hrow
    rcases hl.mem_or_eq ((leg.keeps_walked w').rows ▸ hrow) with hmem | rfl
    · exact .keeps hmem
    · exact .held leg w' (walk?_of_plan hplan) rfl
  cases hmakes with
  | nothing => exact .keeps h
  | note held message attempts ha hheld =>
    have hs' : (w.withAttempts attempts).executions.Sound := hs.keeps ⟨rfl, ha⟩
    have hheld' : held ∈ (w.withAttempts attempts).executions.rows := hheld
    rcases (hs'.mem_rewrite_iff hheld').1 h with rfl | ⟨hold, -⟩
    · exact .notes held _ hheld rfl
    · exact .keeps hold
  | failure leg w' failure hplan hl => exact hwalked hplan hl after h
  | walk leg w' patch hplan hl hp =>
    rcases ((hl.sound_walked hs).mem_rewrite_iff hl.held_mem_walked).1 h with rfl | ⟨hold, -⟩
    · exact .walks leg w' patch (walk?_of_plan hplan) hp rfl
    · exact hwalked hplan hl after hold

/-! ## The clock, the flows and the store -/

/-- An invocation leaves the clock and the flows alone. -/
theorem frame_next (w : World) (call : Invocation) :
    (w.next (.invoke call)).outside.clock = w.outside.clock ∧
      (w.next (.invoke call)).flows = w.flows := by
  have hmakes := call.makes w
  rw [next]
  generalize call.perform.exec w = made at hmakes
  cases hmakes with
  | nothing | note => exact ⟨rfl, rfl⟩
  | failure leg w' failure hplan hl | walk leg w' patch hplan hl =>
    exact ⟨(leg.clock_walked w').trans (congrArg Outside.clock hl.outside_eq), hl.flows_eq⟩

/-- An event keeps a store sound. -/
theorem sound_next (hs : w.executions.Sound) (event : Event) :
    (w.next event).executions.Sound := by
  cases event with
  | change world => exact hs
  | invoke call => exact (call.perform_performed w).sound hs

/-- What each event preserves holds throughout a run. -/
theorem Throughout.of_step {P Q : World → Event → Prop} {events : List Event}
    (h : w.Throughout Q events) (Holds : World → Prop) (hw : Holds w)
    (hstep : ∀ now event, Holds now → Q now event → P now event ∧ Holds (now.next event)) :
    w.Throughout P events := by
  induction events generalizing w with
  | nil => trivial
  | cons event events ih =>
    obtain ⟨hp, hnext⟩ := hstep w event hw h.1
    exact ⟨hp, ih h.2 hnext⟩

theorem throughout_true (w : World) (events : List Event) :
    w.Throughout (fun _ _ => True) events := by
  induction events generalizing w with
  | nil => trivial
  | cons event events ih => exact ⟨trivial, ih (w.next event)⟩

end World

end ChatFlow

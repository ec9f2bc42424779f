import ChatFlow.Proofs.Engine.Events

/-!
# Parks

A delay parks an execution until a moment (`Leg.parked_of_delay`). `World.timer_safety` says what
this means: before the moment nothing is dispatched for the execution, whatever happens, and of all
wake-up calls and messages at most one commits a walk that leaves the park. Messages that come
meanwhile are noted in the variables, each in a new version, for which a new call is needed.

An event finds the execution still parked, or it finds it past the version in which it left. In the
first case only a call for the present version that is not too early can go on with it
(`SetsOut.of_parked`); in the second the calls for the park are for versions that will not come
again, so a later park is not left by them.
-/

namespace ChatFlow

/-- Whether an execution is parked until a moment: it waits for a timer that is due then. -/
structure Execution.Parked (row : Execution) (due : Moment) : Prop where
  status : row.status = .waiting
  waitingFor : row.waitingFor = some timerReason
  resumeAt : row.resumeAt = some due

/-- Whether an execution is what another has become in its park: the same but for what was noted,
each time in a new version. -/
structure Execution.SamePark (row after : Execution) : Prop where
  fields : after = { row with vars := after.vars, version := after.version }
  version_le : row.version ≤ after.version

namespace Execution

variable {row after later : Execution} {due : Moment}

theorem Parked.waitsForTimer (h : row.Parked due) : row.waitsForTimer = true :=
  waitsForTimer_iff.2 ⟨h.status, h.waitingFor⟩

/-- A park is left too early before its moment. -/
theorem Parked.tooEarly_iff (h : row.Parked due) (now : Moment) :
    Work.tooEarly now row.resumeAt = true ↔ now.micros < due.micros := by
  rw [Work.tooEarly, h.resumeAt]
  simp

theorem SamePark.refl (row : Execution) : row.SamePark row :=
  ⟨rfl, Nat.le_refl _⟩

theorem SamePark.trans (h : row.SamePark after) (h' : after.SamePark later) :
    row.SamePark later := by
  refine ⟨?_, Nat.le_trans h.version_le h'.version_le⟩
  rw [h'.fields, h.fields]

/-- An execution to which something was noted is in the same park. -/
theorem SamePark.noted (row : Execution) (vars : Object) :
    row.SamePark (Patch.apply { vars := some vars } row) :=
  ⟨rfl, Nat.le_succ _⟩

theorem Parked.samePark (h : row.Parked due) (hs : row.SamePark after) : after.Parked due := by
  rw [hs.fields]
  exact ⟨h.status, h.waitingFor, h.resumeAt⟩

theorem SamePark.id_eq (h : row.SamePark after) : after.id = row.id := by
  rw [h.fields]

end Execution

/-- A walk that ends at a delay parks its execution there. -/
theorem Leg.parked_of_delay {leg : Leg} {w : World} {id reason : String}
    {resumeAt : Option ZonedMoment} {node : FlowNode} {seconds : Value} {patch : Patch}
    (he : (leg.walk w).ending = .parked id reason resumeAt)
    (hn : leg.graph.node? id = some node) (hd : node.configured? = some (.delay seconds))
    (hp : leg.patch? w = .ok patch) (held : Execution) :
    (patch.apply held).currentNode = some id ∧ ∃ due, (patch.apply held).Parked due := by
  obtain ⟨stopped, -, hid, before, result, after, hact, hnext⟩ := walkFrom_parked he
  obtain rfl : stopped = node := Option.some.inj (hid.symm.trans hn)
  have hends := (NodeConfig.delay seconds).act_ensures leg.recipient stopped.id before
  rw [← FlowNode.act_of_configured leg.recipient hd, hact] at hends
  cases hends with
  | gives _ _ _ hleads =>
    obtain ⟨moment, hmoment⟩ := hleads
    rw [hnext] at hmoment
    cases hmoment
    simp only [patch?, Walk.patch?, he] at hp
    cases hi : moment.instant with
    | error fault =>
      simp [hi] at hp
    | ok due =>
      simp [hi] at hp
      subst hp
      exact ⟨rfl, due, rfl, rfl, rfl⟩

namespace SetsOut

variable {w w' : World} {call : Invocation} {leg : Leg} {row : Execution}

/-- A walk for a row of the store is taken with the row as it is. -/
theorem held_eq (h : SetsOut w call leg w') (hs : w.executions.Sound)
    (hrow : row ∈ w.executions.rows) (hid : leg.held.id = row.id) : leg.held = row :=
  (h.sound hs).eq_of_id h.held_mem (h.mem_of_mem hrow) hid

/-- **Only a timer goes on with a parked execution**: a call for its version that is not too
early. -/
theorem of_parked (h : SetsOut w call leg w') (hw : leg.held.waitsForTimer = true) :
    ∃ version, call = .timer leg.held.id version ∧
      version.any (· != (leg.held.version : Int)) = false ∧
      Work.tooEarly w.outside.clock.now leg.held.resumeAt = false := by
  obtain ⟨hstatus, hreason⟩ := Execution.waitsForTimer_iff.1 hw
  cases h with
  | reply credentials attempts ha hheld hb hs ht => exact absurd hreason ht
  | stranded credentials attempts ha hheld hb hs ht => exact absurd hreason ht
  | restart credentials attempts ha hheld hb hs =>
    exact absurd (hs.symm.trans hstatus) ExecutionStatus.noConfusion
  | departure hc hg ht ha hnew =>
    rw [show (Leg.ofDeparture _ _ _).held = _ from hnew] at hstatus
    cases hstatus
  | timer credentials hc hheld hw hv hl => exact ⟨_, hc, hv, hl⟩

/-- A wake-up call goes on only with an execution that waits for a timer. -/
theorem waitsForTimer_of_timer {id : String} {version : Option Int}
    (h : SetsOut w (.timer id version) leg w') : leg.held.waitsForTimer = true := by
  cases h with
  | reply credentials attempts ha hheld hb => exact hb.elim
  | stranded credentials attempts ha hheld hb => exact hb.elim
  | restart credentials attempts ha hheld hb => exact hb.elim
  | departure hc => cases hc
  | timer credentials hc hheld hw => exact hw

end SetsOut

/-- Whether an event is a wake-up call. -/
def Event.IsFiring (event : Event) : Prop :=
  ∃ id version, event = .invoke (.timer id version)

/-- Whether an event is a wake-up call that is meant for an execution in its present version; a call
without a version is meant for any. -/
def Event.Fires (row : Execution) (event : Event) : Prop :=
  ∃ version : Option Int, event = .invoke (.timer row.id version) ∧
    ∀ n, version = some n → n = row.version

/-- Whether an event does not set the clock back. -/
def Event.AdvancesClock (w : World) (event : Event) : Prop :=
  ∀ world, event = .change world →
    w.outside.clock.now.micros ≤ world.outside.clock.now.micros

namespace World

variable {w : World} {row : Execution} {due : Moment} {event : Event} {events : List Event}

/-! ## One event -/

/-- Only a call for its present version that is not too early goes on with an execution that waits
for a timer. -/
theorem walk?_of_waitsForTimer {leg : Leg} {w' : World} (hwalk : w.walk? event = some (leg, w'))
    (hw : leg.held.waitsForTimer = true) :
    event.Fires leg.held ∧ Work.tooEarly w.outside.clock.now leg.held.resumeAt = false := by
  obtain ⟨call, rfl, -, hl⟩ := walk?_some hwalk
  obtain ⟨version, rfl, hv, hearly⟩ := hl.of_parked hw
  refine ⟨⟨version, rfl, fun n hn => ?_⟩, hearly⟩
  subst hn
  simpa using hv

/-- A walk for a row of the store is taken with the row as it is. -/
theorem held_eq_of_walk? (hs : w.executions.Sound) (hrow : row ∈ w.executions.rows) {leg : Leg}
    {w' : World} (hwalk : w.walk? event = some (leg, w')) (hid : leg.held.id = row.id) :
    leg.held = row := by
  obtain ⟨call, -, -, hl⟩ := walk?_some hwalk
  exact hl.held_eq hs hrow hid

/-- A parked execution is not gone on with before its moment. -/
theorem due_le_of_walk? {leg : Leg} {w' : World} (hwalk : w.walk? event = some (leg, w'))
    (hp : leg.held.Parked due) : due.micros ≤ w.outside.clock.now.micros := by
  have hlate := (walk?_of_waitsForTimer hwalk hp.waitsForTimer).2
  have hnot := mt (hp.tooEarly_iff w.outside.clock.now).2 (by rw [hlate]; exact Bool.noConfusion)
  omega

/-- What an event can make of a parked execution. -/
inductive TreatsParked (w : World) (event : Event) (row : Execution) (due : Moment) :
    Execution → Prop where
  | keeps (hno : ¬ w.Commits row.id event) : TreatsParked w event row due row
  /-- A message comes. -/
  | notes (message : InboundMessage) (hno : ¬ w.Commits row.id event) (hf : ¬ event.IsFiring) :
      TreatsParked w event row due (Patch.apply { vars := some (row.after message) } row)
  | leaves (patch : Patch) (hc : w.Commits row.id event) (hf : event.Fires row)
      (hd : due.micros ≤ w.outside.clock.now.micros) :
      TreatsParked w event row due (patch.apply row)

/-- **All that an event can do to a parked execution.** -/
theorem treatsParked_next (hs : w.executions.Sound) (hrow : row ∈ w.executions.rows)
    (hp : row.Parked due) (event : Event) :
    ∃ after, (w.next event).executions.get? row.id = some after ∧
      w.TreatsParked event row due after := by
  obtain ⟨after, hget, htreats⟩ := treats_next hs hrow event
  refine ⟨after, hget, ?_⟩
  cases htreats with
  | keeps hno => exact .keeps hno
  | @notes call message he hb hw hno =>
    refine .notes message hno ?_
    rintro ⟨id, version, hf⟩
    cases he.symm.trans hf
    exact hb
  | walks hwalk hheld hpatch =>
    subst hheld
    exact .leaves _ ⟨_, _, _, hwalk, rfl, hpatch⟩
      (walk?_of_waitsForTimer hwalk hp.waitsForTimer).1 (due_le_of_walk? hwalk hp)

/-- Nothing is dispatched for a parked execution before its moment. -/
theorem dispatched_eq_nil (hs : w.executions.Sound) (hrow : row ∈ w.executions.rows)
    (hp : row.Parked due) (hearly : w.outside.clock.now.micros < due.micros) :
    w.dispatched row.id event = [] := by
  unfold dispatched
  split
  · next leg w' hwalk =>
    refine if_neg fun hid => ?_
    obtain rfl := held_eq_of_walk? hs hrow hwalk hid
    have hd := due_le_of_walk? hwalk hp
    omega
  · rfl

/-- An event that does not set the clock back leaves it as late as it was. -/
theorem clock_le_next (h : event.AdvancesClock w) :
    w.outside.clock.now.micros ≤ (w.next event).outside.clock.now.micros := by
  cases event with
  | invoke call =>
    exact Int.le_of_eq (congrArg (fun clock : Clock => clock.now.micros) (frame_next w call).1.symm)
  | change world => exact h world rfl

/-- An event does not take a row back behind its version. -/
theorem Treats.version_le {after : Execution} (h : w.Treats event row after) :
    row.version ≤ after.version := by
  cases h with
  | keeps => exact Nat.le_refl _
  | notes => exact Nat.le_succ _
  | walks => exact Nat.le_succ _

/-- A wake-up call changes a row only if it is meant for it and the row waits for a timer. -/
theorem Treats.of_isFiring {after : Execution} (h : w.Treats event row after)
    (hf : event.IsFiring) : after = row ∨ row.waitsForTimer = true ∧ event.Fires row := by
  obtain ⟨id, version, rfl⟩ := hf
  cases h with
  | keeps => exact .inl rfl
  | notes he hb =>
    cases he
    exact hb.elim
  | walks hwalk hheld =>
    obtain ⟨call, he, -, hl⟩ := walk?_some hwalk
    cases he
    subst hheld
    have hw := hl.waitsForTimer_of_timer
    exact .inr ⟨hw, (walk?_of_waitsForTimer hwalk hw).1⟩

/-! ## Runs -/

/-- While the clock stands before the moment of a park, nothing is dispatched and the park stays. -/
theorem parked_throughout (hs : w.executions.Sound) (hrow : row ∈ w.executions.rows)
    (hp : row.Parked due)
    (hclock : w.Throughout (fun now event => event.AdvancesClock now) events) :
    w.Throughout (fun now event => now.outside.clock.now.micros < due.micros →
      now.dispatched row.id event = [] ∧
      ∃ after, (now.next event).executions.get? row.id = some after ∧ row.SamePark after)
      events := by
  -- once the moment has come there is nothing left to show
  refine hclock.of_step (fun now => now.executions.Sound ∧
    (now.outside.clock.now.micros < due.micros →
      ∃ here ∈ now.executions.rows, row.SamePark here)) ⟨hs, fun _ => ⟨row, hrow, .refl row⟩⟩ ?_
  rintro now event ⟨hsound, hpark⟩ hadvances
  have hlate := clock_le_next hadvances
  have hstep : now.outside.clock.now.micros < due.micros →
      now.dispatched row.id event = [] ∧
      ∃ after, (now.next event).executions.get? row.id = some after ∧ row.SamePark after := by
    intro hearly
    obtain ⟨here, hhere, hsame⟩ := hpark hearly
    have hparked := hp.samePark hsame
    obtain ⟨after, hget, htreats⟩ := treatsParked_next hsound hhere hparked event
    rw [← hsame.id_eq]
    refine ⟨dispatched_eq_nil hsound hhere hparked hearly, after, hget, ?_⟩
    cases htreats with
    | keeps => exact hsame
    | notes message => exact hsame.trans (.noted here _)
    | leaves patch hc hf hd => omega
  refine ⟨hstep, sound_next hsound event, fun hearly => ?_⟩
  obtain ⟨-, after, hget, hsame⟩ := hstep (by omega)
  exact ⟨after, (Executions.get?_some hget).1, hsame⟩

/-- Once a walk has left a park, no walk sets out from it again, and only the calls for later parks
change the execution. -/
theorem past_throughout (hs : w.executions.Sound) {after : Execution} {version : Nat}
    (hafter : after ∈ w.executions.rows) (hpast : version < after.version)
    (events : List Event) :
    w.Throughout (fun now event =>
      (∀ leg w', now.walk? event = some (leg, w') → leg.held.id = after.id →
        version < leg.held.version) ∧
      (event.IsFiring →
        (now.next event).executions.get? after.id = now.executions.get? after.id ∨
        ∃ held, now.executions.get? after.id = some held ∧ version < held.version ∧
          held.waitsForTimer = true ∧ event.Fires held)) events := by
  refine (w.throughout_true events).of_step (fun now => now.executions.Sound ∧
    ∃ held, now.executions.get? after.id = some held ∧ version < held.version)
    ⟨hs, after, hs.get?_eq_some_iff.2 ⟨hafter, rfl⟩, hpast⟩ ?_
  rintro now event ⟨hsound, held, hget, hversion⟩ -
  obtain ⟨hheld, hid⟩ := Executions.get?_some hget
  obtain ⟨next, hnext, htreats⟩ := treats_next hsound hheld event
  rw [hid] at hnext
  refine ⟨⟨fun leg w' hwalk hleg => ?_, fun hf => ?_⟩, sound_next hsound event, next, hnext,
    Nat.lt_of_lt_of_le hversion htreats.version_le⟩
  · rw [held_eq_of_walk? hsound hheld hwalk (hleg.trans hid.symm)]
    exact hversion
  · rcases htreats.of_isFiring hf with rfl | ⟨hw, hfires⟩
    · exact .inl (hnext.trans hget.symm)
    · exact .inr ⟨held, hget, hversion, hw, hfires⟩

/-- A run divides where the park of an execution is left. -/
theorem exists_leave (hs : w.executions.Sound) (hrow : row ∈ w.executions.rows)
    (hp : row.Parked due) (events : List Event) :
    ∃ stay leave later last, events = stay ++ leave ++ later ∧ leave.length ≤ 1 ∧
      (leave = [] → later = []) ∧
      (w.play stay).executions.get? row.id = some last ∧ row.SamePark last ∧
      w.Throughout (fun now event => ¬ now.Commits row.id event ∧
        (event.IsFiring →
          (now.next event).executions.get? row.id = now.executions.get? row.id)) stay ∧
      (∀ event ∈ leave, (w.play stay).Commits row.id event ∧ event.Fires last ∧
        due.micros ≤ (w.play stay).outside.clock.now.micros) ∧
      (w.play (stay ++ leave)).Throughout (fun now event =>
        (∀ leg w', now.walk? event = some (leg, w') → leg.held.id = row.id →
          last.version < leg.held.version) ∧
        (event.IsFiring →
          (now.next event).executions.get? row.id = now.executions.get? row.id ∨
          ∃ held, now.executions.get? row.id = some held ∧ last.version < held.version ∧
            held.waitsForTimer = true ∧ event.Fires held)) later := by
  have hget : w.executions.get? row.id = some row := hs.get?_eq_some_iff.2 ⟨hrow, rfl⟩
  induction events generalizing w row with
  | nil => exact ⟨[], [], [], row, rfl, Nat.zero_le 1, fun _ => rfl, hget, .refl row, trivial,
      fun _ h => absurd h List.not_mem_nil, trivial⟩
  | cons event rest ih =>
    obtain ⟨after, hafter, htreats⟩ := treatsParked_next hs hrow hp event
    obtain ⟨hmem, hid⟩ := Executions.get?_some hafter
    have hs' := sound_next hs event
    cases htreats with
    | keeps hno =>
      obtain ⟨stay, leave, later, last, rfl, hone, hend, hlast, hsame, hstay, hleave, hlater⟩ :=
        ih hs' hmem hp hafter
      exact ⟨event :: stay, leave, later, last, rfl, hone, hend, hlast, hsame,
        ⟨⟨hno, fun _ => hafter.trans hget.symm⟩, hstay⟩, hleave, hlater⟩
    | notes message hno hf =>
      have hnoted := Execution.SamePark.noted row (row.after message)
      obtain ⟨stay, leave, later, last, rfl, hone, hend, hlast, hsame, hstay, hleave, hlater⟩ :=
        ih hs' hmem (hp.samePark hnoted) hafter
      exact ⟨event :: stay, leave, later, last, rfl, hone, hend, hlast, hnoted.trans hsame,
        ⟨⟨hno, fun h => absurd h hf⟩, hstay⟩, hleave, hlater⟩
    | leaves patch hc hf hd =>
      refine ⟨[], [event], rest, row, rfl, Nat.le_refl 1, fun h => absurd h (List.cons_ne_nil _ _),
        hget, .refl row, trivial, fun e he => ?_,
        past_throughout hs' hmem (Nat.lt_succ_self row.version) rest⟩
      rw [List.mem_singleton.1 he]
      exact ⟨hc, hf, hd⟩

/-- **Timer safety.** Let an execution be parked until a moment, and let anything happen: messages,
starts of flows, wake-up calls of any kind and in any order, changes of the world that do not set
the clock back.

While the clock stands before the moment, no node is dispatched for the execution, and it stays in
its park. The run divides into the events that found the execution in its park and left it there, at
most one event that committed a walk which left the park, and the events after it. That event is a
call for the version of the execution, at the moment or later. Before it, no wake-up call changes
the execution; after it, one does so only as the call for a later park, and no walk sets out from
this park again. -/
theorem timer_safety (hs : w.executions.Sound) (hrow : row ∈ w.executions.rows)
    (hp : row.Parked due) (events : List Event) (hclock : w.Throughout (fun now event =>
      event.AdvancesClock now) events) :
    w.Throughout (fun now event => now.outside.clock.now.micros < due.micros →
      now.dispatched row.id event = [] ∧
      ∃ after, (now.next event).executions.get? row.id = some after ∧ row.SamePark after) events ∧
    ∃ stay leave later last, events = stay ++ leave ++ later ∧ leave.length ≤ 1 ∧
      (leave = [] → later = []) ∧
      (w.play stay).executions.get? row.id = some last ∧ row.SamePark last ∧
      w.Throughout (fun now event => ¬ now.Commits row.id event ∧
        (event.IsFiring →
          (now.next event).executions.get? row.id = now.executions.get? row.id)) stay ∧
      (∀ event ∈ leave, (w.play stay).Commits row.id event ∧ event.Fires last ∧
        due.micros ≤ (w.play stay).outside.clock.now.micros) ∧
      (w.play (stay ++ leave)).Throughout (fun now event =>
        (∀ leg w', now.walk? event = some (leg, w') → leg.held.id = row.id →
          last.version < leg.held.version) ∧
        (event.IsFiring →
          (now.next event).executions.get? row.id = now.executions.get? row.id ∨
          ∃ held, now.executions.get? row.id = some held ∧ last.version < held.version ∧
            held.waitsForTimer = true ∧ event.Fires held)) later :=
  ⟨parked_throughout hs hrow hp hclock, exists_leave hs hrow hp events⟩

/-- An execution at a delay that ends five microseconds after the start of 1970. -/
def dozer : Execution :=
  ⟨Executions.idOf 1, "f", "x", some "c", some "d", .waiting, some timerReason, [], 2, some ⟨5⟩,
    none⟩

/-- A world with this execution, at the start of 1970. -/
def dozing : World :=
  { World.offering ⟨"f", some "c", .anyMessage, 0, true, true⟩
      ⟨[⟨"t", "trigger", .object []⟩, ⟨"d", "delay", .object []⟩], [⟨"t", "d", none, 0⟩]⟩ with
    executions := ⟨[dozer], [], 1⟩ }

/-- A message, and then the call that was asked for before the message came. -/
def disturbances : List Event :=
  [.invoke (.inbound ⟨some "c", ⟨none, none⟩⟩ "x" ⟨.null, .null, .null, .null, .null, .null⟩ []),
   .invoke (.timer (Executions.idOf 1) (some 2))]

/-- Neither goes on with the execution. -/
theorem timer_safety_dozing :
    dozing.Throughout (fun now event => now.outside.clock.now.micros < 5 →
      now.dispatched dozer.id event = [] ∧
      ∃ after, (now.next event).executions.get? dozer.id = some after ∧ dozer.SamePark after)
      disturbances := by
  have hsound : dozing.executions.Sound := by
    refine ⟨List.nodup_singleton _, fun row hrow n hn hid => ?_⟩
    rw [List.mem_singleton.1 hrow] at hid
    exact Nat.ne_of_lt hn (Executions.idOf_injective hid)
  have hparked : dozer.Parked ⟨5⟩ := ⟨rfl, rfl, rfl⟩
  exact (timer_safety hsound (List.mem_singleton_self dozer) hparked disturbances
    ⟨fun _ => Event.noConfusion, fun _ => Event.noConfusion, trivial⟩).1

end World

end ChatFlow

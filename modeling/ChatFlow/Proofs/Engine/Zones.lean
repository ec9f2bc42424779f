import ChatFlow.Proofs.Engine.Bounds
import ChatFlow.Proofs.Engine.Parking
import ChatFlow.Proofs.Node.Delays

/-!
# Timers in any zone

Nodes see the time in some zone, and the engine reckons with the moments themselves. The two meet at
a delay: its node names a time on the clock that it sees, and the engine stores the moment of this
time, asks for a wake-up call after the time that is left, and compares the moment with the present
one when the call comes.

`Leg.zone_spares_timer` says that the zone makes no difference to all this. A walk stops at the
delay that it reaches (`Leg.parked_of_visited`), and what it stores and asks for
(`Leg.ParksUntil`) depends on the present moment and the span of the delay only. What was stored
decides what later calls do (`Execution.Parked.wakesAt`).
-/

namespace ChatFlow

/-- A world whose clock shows the same moment, to nodes in another zone. -/
def World.inZone (w : World) (zone : Option Offset) : World :=
  { w with outside := { w.outside with clock := { w.outside.clock with zone } } }

/-- Whether wake-up calls do with an execution what befits one that is parked until a moment,
whenever they come. A call for another version is dropped, one that comes before the moment is asked
for again for the time that is left, and from the moment on the execution goes on. -/
def Execution.WakesAt (row : Execution) (due : Moment) : Prop :=
  ∀ (w : World) (version : Option Int), w.executions.get? row.id = some row →
    (Work.resumeTimer row.id version).exec w =
      if version.any (· != (row.version : Int)) then
        (.ok ⟨.ignored, some row.id, some .waiting⟩, w)
      else if w.outside.clock.now.micros < due.micros then
        (.ok ⟨.ignored, some row.id, some .waiting⟩,
          { w with timers := w.timers.ask row (some (due.since w.outside.clock.now)) })
      else Work.proceed Work.submit ((Work.resumeDue row).exec w)

/-- **Calls keep to the moment** until which an execution is parked. -/
theorem Execution.Parked.wakesAt {row : Execution} {due : Moment} (h : row.Parked due) :
    row.WakesAt due := by
  intro w version hget
  rw [Work.resumeTimer, Work.exec_bind, Work.exec_get, Work.proceed_ok, Work.exec_bind]
  rw [hget, Work.exec_wake, h.waitsForTimer, Bool.not_true, Bool.false_or, h.status]
  by_cases hversion : version.any (· != (row.version : Int)) = true
  · rw [if_pos hversion, if_pos hversion]
    rfl
  rw [if_neg hversion, if_neg hversion]
  by_cases hearly : w.outside.clock.now.micros < due.micros
  · have hleft : timeLeft w.outside.clock.now row.resumeAt =
        some (due.since w.outside.clock.now) := by
      rw [h.resumeAt]
      exact if_neg (Int.lt_asymm hearly)
    rw [if_pos ((h.tooEarly_iff _).2 hearly), if_pos hearly, hleft]
    rfl
  · rw [if_neg (mt (h.tooEarly_iff _).1 hearly), if_neg hearly, Work.exec_map]
    rcases (Work.resumeDue row).exec w with ⟨_ | _, _⟩ <;> rfl

namespace Leg

variable {leg : Leg} {w : World} {node : FlowNode} {seconds : Value} {delay : Span}

/-- A walk ends at a node that it visits and does not leave. -/
theorem ending_of_visited (h : node ∈ leg.visited w) :
    ∃ before, before.outside.clock = w.outside.clock ∧
      ∀ ending, Dispatch.ending? leg.recipient ⟨node, before⟩ = some ending →
        (leg.walk w).ending = ending := by
  rw [visited, itinerary, ← map_node_dispatches] at h
  obtain ⟨⟨found, before⟩, hmem, rfl⟩ := List.mem_map.1 h
  obtain ⟨hprecedes, hends⟩ := dispatches_spec leg.held.currentNode hmem
  exact ⟨before, hprecedes.clock, hends⟩

/-- A walk parks at a delay that it reaches. -/
theorem parked_of_visited (hv : node ∈ leg.visited w) (hd : node.configured? = some (.delay seconds))
    (hdelay : delaySpan seconds = .ok delay)
    (hdate : (w.outside.clock.later delay).seen.wall.IsDate) :
    (leg.walk w).ending =
      .parked node.id timerReason (some (w.outside.clock.later delay).seen) := by
  obtain ⟨before, hclock, hends⟩ := ending_of_visited hv
  rw [← hclock] at hdate
  obtain ⟨notes, hrun⟩ := run_waitSeconds hdelay hdate
  refine hends _ ?_
  rw [Dispatch.ending?, FlowNode.act_delay hd, hrun, hclock]

/-- A walk fails at a delay whose span cannot be told. -/
theorem failed_of_visited (hv : node ∈ leg.visited w) (hd : node.configured? = some (.delay seconds))
    {fault : Fault} (hdelay : delaySpan seconds = .error fault) :
    (leg.walk w).ending = .failed node (.fault fault) := by
  obtain ⟨before, -, hends⟩ := ending_of_visited hv
  refine hends _ ?_
  rw [Dispatch.ending?, FlowNode.act_delay hd, run_waitSeconds_error hdelay]

/-- Whether a walk parks its execution until a moment, which is some time from now. The moment is
stored with the next version of the execution, for which a wake-up call is asked for after this
time. Whatever is noted until they come, the calls keep to the moment. -/
structure ParksUntil (leg : Leg) (w : World) (due : Moment) (delay : Span) (after : Execution)
    (last : World) : Prop where
  outcome : (Plan.walk leg).carryOut.exec w =
    (.ok ⟨leg.action, some leg.held.id, some .waiting⟩, last)
  stored : last.executions.get? leg.held.id = some after
  parked : after.Parked due
  version : after.version = leg.held.version + 1
  timers : last.timers = w.timers.ask after (some delay)
  wakes : ∀ later, after.SamePark later → later.WakesAt due

theorem ParksUntil.id_eq {due : Moment} {after : Execution} {last : World}
    (h : leg.ParksUntil w due delay after last) : after.id = leg.held.id :=
  (Executions.get?_some h.stored).2

/-- A walk that reaches a delay parks its execution until the moment to which the delay sets the
clock on. -/
theorem parksUntil_of_visited (hs : w.executions.Sound) (hheld : leg.held ∈ w.executions.rows)
    (hv : node ∈ leg.visited w) (hd : node.configured? = some (.delay seconds))
    (hdelay : delaySpan seconds = .ok delay)
    (hwall : (w.outside.clock.later delay).seen.wall.IsDate)
    (hdue : (w.outside.clock.later delay).now.IsDate) :
    ∃ after last, leg.ParksUntil w (w.outside.clock.later delay).now delay after last := by
  have hnonneg := micros_nonneg_of_delaySpan hdelay
  obtain ⟨patch, hpatch, hparks⟩ : ∃ patch, leg.patch? w = .ok patch ∧
      ∀ held, (patch.apply held).Parked (w.outside.clock.later delay).now := by
    rw [patch?, Walk.patch?, parked_of_visited hv hd hdelay hwall]
    dsimp only
    rw [Option.mapM_some, Clock.instant_seen hdue]
    exact ⟨_, rfl, fun held => ⟨rfl, rfl, rfl⟩⟩
  have hparked := hparks leg.held
  have hmem : leg.held ∈ (leg.walked w).executions.rows := (leg.keeps_walked w).rows ▸ hheld
  have hleft : timeLeft (leg.walked w).outside.clock.now (patch.apply leg.held).resumeAt =
      some delay := by
    have hspan : (w.outside.clock.later delay).now.since w.outside.clock.now = delay :=
      congrArg Span.mk (add_sub_cancel_left _ _)
    have hlate : ¬ (w.outside.clock.later delay).now.micros < w.outside.clock.now.micros :=
      Int.not_lt_of_ge (Int.le_add_of_nonneg_right hnonneg)
    rw [hparked.resumeAt, leg.clock_walked, timeLeft, if_neg hlate, hspan]
  refine ⟨patch.apply leg.held, (leg.walked w).withWritten leg.held patch (leg.entries w), ?_⟩
  refine ⟨?_, ?_, hparked, ?_, ?_, fun later hsame => (hparked.samePark hsame).wakesAt⟩
  · rw [Plan.exec_walk hheld, hpatch]
    dsimp only
    rw [hparked.status]
  · exact ((hs.keeps (leg.keeps_walked w)).get?_written hmem patch _ _).trans (if_pos rfl)
  · rfl
  · rw [World.withWritten, if_pos hparked.waitsForTimer, hleft]
    rfl

/-- Whether a walk fails, stores nothing and asks for no call. -/
def FailsWith (leg : Leg) (w : World) (failure : Failure) : Prop :=
  ∃ last, (Plan.walk leg).carryOut.exec w = (.error failure, last) ∧
    last.executions.rows = w.executions.rows ∧ last.timers = w.timers

/-- A walk that reaches a delay whose span cannot be told fails there. -/
theorem failsWith_of_visited (hheld : leg.held ∈ w.executions.rows) (hv : node ∈ leg.visited w)
    (hd : node.configured? = some (.delay seconds)) {fault : Fault}
    (hdelay : delaySpan seconds = .error fault) :
    leg.FailsWith w (.node node.id node.type (.fault fault)) := by
  have hpatch : leg.patch? w = .error (.node node.id node.type (.fault fault)) := by
    rw [patch?, Walk.patch?, failed_of_visited hv hd hdelay]
  refine ⟨leg.walked w, ?_, (leg.keeps_walked w).rows, rfl⟩
  rw [Plan.exec_walk hheld, hpatch]

/-- **The zone of the nodes' clock does not move timers.** Let a walk be taken while nodes see the
time in one zone, or in another, the moment being the same, and let it reach a delay in both cases.
If the span of the delay cannot be told, both walks fail alike. Otherwise the span is not negative.
Then, as long as no date leaves the calendar, both walks park the execution until the same moment:
the present one and the span. Both ask for the same wake-up call, for the same version and after the
same span, and the calls that come later keep to the same moment. -/
theorem zone_spares_timer (hs : w.executions.Sound) (hheld : leg.held ∈ w.executions.rows)
    (hd : node.configured? = some (.delay seconds)) {zone₁ zone₂ : Option Offset}
    (hv₁ : node ∈ leg.visited (w.inZone zone₁)) (hv₂ : node ∈ leg.visited (w.inZone zone₂)) :
    (∀ fault, delaySpan seconds = .error fault →
      leg.FailsWith (w.inZone zone₁) (.node node.id node.type (.fault fault)) ∧
      leg.FailsWith (w.inZone zone₂) (.node node.id node.type (.fault fault))) ∧
    ∀ delay, delaySpan seconds = .ok delay → 0 ≤ delay.micros ∧
      ((w.outside.clock.later delay).now.IsDate →
        ((w.inZone zone₁).outside.clock.later delay).seen.wall.IsDate →
        ((w.inZone zone₂).outside.clock.later delay).seen.wall.IsDate →
        ∃ after₁ last₁ after₂ last₂,
          leg.ParksUntil (w.inZone zone₁) (w.outside.clock.later delay).now delay after₁ last₁ ∧
          leg.ParksUntil (w.inZone zone₂) (w.outside.clock.later delay).now delay after₂ last₂ ∧
          last₁.timers = last₂.timers) := by
  have hsound (zone) : (w.inZone zone).executions.Sound := hs
  have hmem (zone) : leg.held ∈ (w.inZone zone).executions.rows := hheld
  refine ⟨fun fault hdelay => ⟨failsWith_of_visited (hmem zone₁) hv₁ hd hdelay,
    failsWith_of_visited (hmem zone₂) hv₂ hd hdelay⟩, fun delay hdelay => ?_⟩
  refine ⟨micros_nonneg_of_delaySpan hdelay, fun hdue hwall₁ hwall₂ => ?_⟩
  obtain ⟨after₁, last₁, hparks₁⟩ :=
    parksUntil_of_visited (hsound zone₁) (hmem zone₁) hv₁ hd hdelay hwall₁ hdue
  obtain ⟨after₂, last₂, hparks₂⟩ :=
    parksUntil_of_visited (hsound zone₂) (hmem zone₂) hv₂ hd hdelay hwall₂ hdue
  refine ⟨after₁, last₁, after₂, last₂, hparks₁, hparks₂, ?_⟩
  rw [hparks₁.timers, hparks₂.timers, Timers.ask, Timers.ask, hparks₁.id_eq, hparks₂.id_eq,
    hparks₁.version, hparks₂.version]
  rfl

/-- A delay of a second and a half. -/
def restingNode : FlowNode := ⟨"d", "delay", .object [("delay_seconds", .text "1.5")]⟩

/-- A flow that begins with it. -/
def restingGraph : FlowGraph where
  nodes := [⟨"t", "trigger", .object []⟩, restingNode]
  edges := [⟨"t", "d", none, 0⟩]

/-- A message that says nothing. -/
def blankMessage : InboundMessage := ⟨.null, .null, .null, .null, .null, .null⟩

/-- A world that offers this flow, a minute after the start of 1970. -/
def restingWorld : World :=
  { World.offering ⟨"f", some "c", .anyMessage, 0, true, true⟩ restingGraph with
    outside := ⟨⟨⟨60000000⟩, none⟩, .fresh [], .fresh [], [], .empty⟩ }

/-- The execution with which the flow starts. -/
def restingRow : Execution :=
  restingWorld.executions.newRow "f" "x" (some "c") (some "t")
    (Object.update [] blankMessage.observed)

/-- The walk with which the flow starts. -/
def resting : Leg :=
  .ofDeparture ⟨restingGraph, ⟨"t", "trigger", .object []⟩, restingRow⟩ ⟨none, none⟩ blankMessage

/-- Half past five hours to the east, or on a clock that does not tell its zone, the timer is due a
second and a half later. -/
theorem zone_spares_timer_resting :
    let w := restingWorld.withRow restingRow
    ∃ after₁ last₁ after₂ last₂,
      resting.ParksUntil (w.inZone (some 330)) ⟨61500000⟩ ⟨1500000⟩ after₁ last₁ ∧
      resting.ParksUntil (w.inZone none) ⟨61500000⟩ ⟨1500000⟩ after₂ last₂ ∧
      last₁.timers = last₂.timers := by
  intro w
  have hopens : restingWorld.Opens "f" (some "c") "x" blankMessage [] restingRow :=
    ⟨restingGraph, ⟨"t", "trigger", .object []⟩, by cbv, rfl, rfl, rfl⟩
  have hs : w.executions.Sound := hopens.sound (.of_rows_nil rfl)
  have hheld : resting.held ∈ w.executions.rows := List.mem_singleton_self _
  have hvisited₁ : resting.visited (w.inZone (some 330)) = [restingNode] := by rfl
  have hvisited₂ : resting.visited (w.inZone none) = [restingNode] := by rfl
  have hspan : delaySpan (.text "1.5") = .ok ⟨1500000⟩ := by rfl
  obtain ⟨-, hspares⟩ := zone_spares_timer hs hheld (by rfl)
    (hvisited₁ ▸ List.mem_singleton_self _) (hvisited₂ ▸ List.mem_singleton_self _)
  exact (hspares _ hspan).2 (by decide) (by decide) (by decide)

end Leg

end ChatFlow

import Mathlib
import ChatFlow.Proofs.Engine.Course

/-!
# No timer is lost

A `Service` is a world together with the wake-up calls that were asked for in it. Messages come in,
time passes, and calls are made, each at any moment and any number of times.
`Service.no_timer_lost` says that at all times an execution that waits for a timer has a call that
is still to be made: for its present version and not due before it may go on. The only exception is
that the call was made and the engine failed with it.

An invocation that writes an execution raises the version, so the call that it had is of no use any
more. The proof rests on `Performed.awaited`: whatever an invocation does, it asks for a call for
each execution that it leaves waiting, and it uses up no call but its own.
-/

namespace ChatFlow

/-- A wake-up call that was asked for, when this was, and whether it has been made since. -/
structure TimerCall where
  wakeup : Wakeup
  askedAt : Moment
  fired : Bool

namespace TimerCall

/-- When a call is to be made: after its delay, to the microsecond. -/
def due (call : TimerCall) : Moment :=
  ⟨call.askedAt.micros + (call.wakeup.delay.elim 0 (·.micros))⟩

/-- Whether a call will wake an execution: it is still to be made, for the present version, and not
before the execution may go on. -/
structure Serves (call : TimerCall) (row : Execution) : Prop where
  fired : call.fired = false
  execution : call.wakeup.execution = row.id
  version : call.wakeup.version = row.version
  due : ∀ moment, row.resumeAt = some moment → moment.micros ≤ call.due.micros

/-- The call that is asked for when an execution is left waiting will wake it. -/
theorem serves_ask (row : Execution) (now : Moment) :
    (TimerCall.mk ⟨row.id, row.version, timeLeft now row.resumeAt⟩ now false).Serves row := by
  refine ⟨rfl, rfl, rfl, fun moment hmoment => ?_⟩
  simp only [TimerCall.due, timeLeft, hmoment]
  split
  · next hpast =>
    simp only [Option.elim_none]
    omega
  · simp only [Option.elim_some, Moment.since]
    omega

end TimerCall

/-! ## Calls that an invocation asks for -/

/-- The calls that were asked for between two worlds, at the time of the second. -/
def World.callsSince (w w' : World) : List TimerCall :=
  (w'.timers.wakeups.drop w.timers.wakeups.length).map (⟨·, w'.outside.clock.now, false⟩)

/-- If a call is asked for, it is among those that were. -/
theorem World.exists_callsSince {w w' : World} {row : Execution} (ha : w.timers.accepts = true)
    (ht : w'.timers =
      w.timers.ask row (timeLeft w'.outside.clock.now row.resumeAt)) :
    ∃ call ∈ w.callsSince w', call.Serves row := by
  refine ⟨_, ?_, TimerCall.serves_ask row w'.outside.clock.now⟩
  rw [callsSince, ht, Timers.ask, if_pos ha, List.drop_left]
  exact List.mem_singleton_self _

/-- Asking for a call does not close the service. -/
theorem Timers.accepts_ask (timers : Timers) (row : Execution) (delay : Option Span) :
    (timers.ask row delay).accepts = timers.accepts := by
  unfold ask
  split <;> rfl

namespace Carried

variable {held : Execution} {w : World} {result : Except Failure Outcome × World}

/-- Going on with an execution keeps a store sound. -/
theorem sound (h : Carried held w result) (hs : w.executions.Sound) :
    result.2.executions.Sound := by
  cases h with
  | written c outside after executions hc hu =>
    obtain ⟨-, rfl⟩ := Executions.update?_some hu
    exact hs.written c.held c.patch c.entries
  | conflict c outside hc hu => exact hs
  | nodeFailed node cause outside hn => exact hs.keeps ⟨rfl, Nat.le_refl _⟩
  | refused failure outside hf => exact hs

theorem accepts (h : Carried held w result) : result.2.timers.accepts = w.timers.accepts := by
  cases h with
  | written c outside after executions hc hu =>
    dsimp only
    split
    · exact w.timers.accepts_ask after _
    · rfl
  | conflict c outside hc hu => rfl
  | nodeFailed node cause outside hn => rfl
  | refused failure outside hf => rfl

/-- Going on with an execution of the store fails and writes nothing, or keeps every other execution
and asks for a call for this one if it waits afterwards. -/
theorem rows (h : Carried held w result) (hs : w.executions.Sound)
    (ha : w.timers.accepts = true) (hheld : held ∈ w.executions.rows) :
    ((∃ failure, result.1 = .error failure) ∧ result.2.executions.rows = w.executions.rows) ∨
      ∀ row ∈ result.2.executions.rows, row.waitsForTimer = true →
        (row ∈ w.executions.rows ∧ row.id ≠ held.id) ∨
          ∃ call ∈ w.callsSince result.2, call.Serves row := by
  cases h with
  | written c outside after executions hc hu =>
    subst hc
    obtain ⟨rfl, rfl⟩ := Executions.update?_some hu
    refine .inr fun row hrow hwaits => ?_
    rcases (hs.mem_rewrite_iff hheld).1 hrow with rfl | hother
    · refine .inr (World.exists_callsSince ha ?_)
      exact if_pos hwaits
    · exact .inl hother
  | conflict c outside hc hu =>
    -- the copy is the row itself, so the write cannot have been refused
    subst hc
    rcases hs.update?_cases (.of_mem hheld) c.patch c.entries with
      ⟨-, hwritten⟩ | ⟨row, hget, hv, -⟩
    · rw [hwritten] at hu
      cases hu
    · obtain rfl : c.held = row := by
        rw [hs.get?_eq_some_iff.2 ⟨hheld, rfl⟩] at hget
        exact Option.some.inj hget
      exact absurd hv (Nat.lt_irrefl _)
  | nodeFailed node cause outside hn => exact .inl ⟨⟨_, rfl⟩, rfl⟩
  | refused failure outside hf => exact .inl ⟨⟨_, rfl⟩, rfl⟩

end Carried

/-! ## What an invocation leaves waiting -/

/-- Whether an invocation is a wake-up call for the present version of an execution. -/
def Invocation.Calls (row : Execution) : Invocation → Prop
  | .timer id version => row.id = id ∧ version = some (row.version : Int)
  | .inbound .. | .start .. => False

namespace Invocation

variable {call : Invocation} {w : World}

/-- A call that is dropped is for no execution that waits. -/
theorem Drops.not_calls (hd : call.Drops w) (hs : w.executions.Sound) {row : Execution}
    (hrow : row ∈ w.executions.rows) (hwaits : row.waitsForTimer = true) : ¬ call.Calls row := by
  intro hcalls
  cases call with
  | inbound channel customer message initial => exact hcalls
  | start flow channel customer message initial => exact hcalls
  | timer id version =>
    obtain ⟨hid, rfl⟩ := hcalls
    have hget : w.executions.get? id = some row := hs.get?_eq_some_iff.2 ⟨hrow, hid⟩
    have hother : (some (row.version : Int)).any (· != (row.version : Int)) = true :=
      hd row hget hwaits
    simp at hother

/-- A wake-up call goes on with no other execution than the one that it is for. -/
theorem Concerns.id_eq {held row : Execution} (hc : call.Concerns held) (hcalls : call.Calls row) :
    row.id = held.id := by
  cases call with
  | inbound channel customer message initial => cases hcalls
  | start flow channel customer message initial => cases hcalls
  | timer id version => exact hcalls.1.trans hc.symm

/-- A wake-up call opens no flow. -/
theorem Opens.not_calls {new row : Execution} (ho : call.Opens w new) : ¬ call.Calls row := by
  obtain ⟨flow, channel, customer, message, initial, hs, -⟩ := ho
  cases hs <;> exact id

end Invocation

/-- **What an invocation leaves waiting for a timer** waited before, and the invocation was not a
call for it; or a new call was asked for that will wake it; or the invocation was the call for it,
and failed. -/
theorem Performed.awaited {call : Invocation} {w : World}
    {result : Except Failure Outcome × World} (h : Performed call w result)
    (hs : w.executions.Sound) (ha : w.timers.accepts = true) :
    ∀ row ∈ result.2.executions.rows, row.waitsForTimer = true →
      (row ∈ w.executions.rows ∧ ¬ call.Calls row) ∨
      (∃ new ∈ w.callsSince result.2, new.Serves row) ∨
      (call.Calls row ∧ ∃ failure, result.1 = .error failure) := by
  intro row hrow hwaits
  cases h with
  | answered outcome attempts hle hd => exact .inl ⟨hrow, hd.not_calls hs hrow hwaits⟩
  | rejected failure hf hd => exact .inl ⟨hrow, hd.not_calls hs hrow hwaits⟩
  | rearmed held outcome hheld hw hc he =>
    by_cases hcalls : call.Calls row
    · obtain rfl := hs.eq_of_id hrow hheld (hc.id_eq hcalls)
      exact .inr (.inl (World.exists_callsSince ha rfl))
    · exact .inl ⟨hrow, hcalls⟩
  | carried held attempts _ hle hheld hc hcarried =>
    have hs' : (w.withAttempts attempts).executions.Sound := hs.keeps ⟨rfl, hle⟩
    rcases hcarried.rows hs' ha hheld with ⟨hfail, hrows⟩ | hdone
    · rw [hrows] at hrow
      by_cases hcalls : call.Calls row
      · exact .inr (.inr ⟨hcalls, hfail⟩)
      · exact .inl ⟨hrow, hcalls⟩
    · rcases hdone row hrow hwaits with ⟨hold, hne⟩ | hnew
      · exact .inl ⟨hold, fun hcalls => hne (hc.id_eq hcalls)⟩
      · exact .inr (.inl hnew)
  | opened new _ ho hcarried =>
    have hnot : ¬ call.Calls row := ho.not_calls
    obtain ⟨flow, channel, customer, message, initial, -, hidles⟩ := ho
    have hnew : new ∈ (w.withRow new).executions.rows :=
      List.mem_append_right _ (List.mem_singleton_self new)
    -- the new row runs, so it does not wait yet
    have hold : row ∈ (w.withRow new).executions.rows → row ∈ w.executions.rows := by
      intro hmem
      rcases List.mem_append.1 hmem with hmem | hmem
      · exact hmem
      · obtain ⟨graph, trigger, -, -, -, rfl⟩ := hidles
        rw [List.mem_singleton.1 hmem] at hwaits
        cases hwaits
    rcases hcarried.rows (hidles.sound hs) ha hnew with ⟨-, hrows⟩ | hdone
    · rw [hrows] at hrow
      exact .inl ⟨hold hrow, hnot⟩
    · rcases hdone row hrow hwaits with ⟨hmem, -⟩ | hcall
      · exact .inl ⟨hold hmem, hnot⟩
      · exact .inr (.inl hcall)

/-- An invocation keeps a store sound. -/
theorem Performed.sound {call : Invocation} {w : World} {result : Except Failure Outcome × World}
    (h : Performed call w result) (hs : w.executions.Sound) : result.2.executions.Sound := by
  cases h with
  | answered outcome attempts hle hd => exact hs.keeps ⟨rfl, hle⟩
  | rejected failure hf hd => exact hs
  | rearmed held outcome hheld hw hc he => exact hs
  | carried held attempts _ hle hheld hc hcarried => exact hcarried.sound (hs.keeps ⟨rfl, hle⟩)
  | opened new _ ho hcarried =>
    obtain ⟨flow, channel, customer, message, initial, -, hidles⟩ := ho
    exact hcarried.sound (hidles.sound hs)

/-- An invocation does not close the service. -/
theorem Performed.accepts {call : Invocation} {w : World}
    {result : Except Failure Outcome × World} (h : Performed call w result) :
    result.2.timers.accepts = w.timers.accepts := by
  cases h with
  | answered outcome attempts hle hd => rfl
  | rejected failure hf hd => rfl
  | rearmed held outcome hheld hw hc he => exact w.timers.accepts_ask held _
  | carried held attempts _ hle hheld hc hcarried => exact hcarried.accepts
  | opened new _ ho hcarried => exact hcarried.accepts

/-! ## The service -/

/-- A world with the wake-up calls that were asked for in it, in order, and those of the calls that
were made and failed. -/
structure Service where
  world : World
  calls : List TimerCall
  failed : List Wakeup

/-- What can happen next: a message comes in, a flow is started, a call is made, or the world
changes in anything but the executions and the calls. That time passes is such a change. -/
inductive Incident where
  | message (channel : ChannelAccess) (customer : String) (message : InboundMessage)
      (initial : Object)
  | start (flow : String) (channel : ChannelAccess) (customer : String) (message : InboundMessage)
      (initial : Object)
  /-- Any call, at any moment; it may have been made before. -/
  | fire (i : Nat)
  | change (world : World)

/-- What the engine is asked to do by a call. -/
def TimerCall.invocation (call : TimerCall) : Invocation :=
  .timer call.wakeup.execution (some call.wakeup.version)

/-- What is noted of a call that came to a result: the call, if it failed. -/
def TimerCall.failures (call : TimerCall) : Except Failure Outcome → List Wakeup
  | .error _ => [call.wakeup]
  | .ok _ => []

namespace Service

/-- A world in which no call was asked for. -/
def idle (w : World) : Service := ⟨w, [], []⟩

/-- The service after an invocation. -/
def after (s : Service) (call : Invocation) : Service :=
  let world := (call.perform.exec s.world).2
  { s with world, calls := s.calls ++ s.world.callsSince world }

/-- The service after an incident. -/
def step (s : Service) : Incident → Service
  | .message channel customer message initial =>
    s.after (.inbound channel customer message initial)
  | .start flow channel customer message initial =>
    s.after (.start flow channel customer message initial)
  | .fire i =>
    match s.calls[i]? with
    | none => s
    | some call =>
      let fired : Service :=
        { s with
          calls := s.calls.set i { call with fired := true }
          failed := s.failed ++ call.failures (call.invocation.perform.exec s.world).1 }
      fired.after call.invocation
  | .change world =>
    { s with
      world := { world with executions := s.world.executions, timers := s.world.timers } }

/-- The service after incidents in an order. -/
def run (s : Service) (incidents : List Incident) : Service := incidents.foldl step s

variable {s : Service}

/-- Whether an execution is awaited: a call is still to be made that will wake it, or one that was
for its present version was made and failed. -/
def Awaits (s : Service) (row : Execution) : Prop :=
  (∃ call ∈ s.calls, call.Serves row) ∨
    ∃ wakeup ∈ s.failed, wakeup.execution = row.id ∧ wakeup.version = row.version

/-- What holds of a service at all times. -/
structure Good (s : Service) : Prop where
  sound : s.world.executions.Sound
  accepts : s.world.timers.accepts = true
  awaited : ∀ row ∈ s.world.executions.rows, row.waitsForTimer = true → s.Awaits row

/-- An invocation that is no call keeps a service good. -/
theorem Good.after (hg : s.Good) {call : Invocation} (hno : ∀ row, ¬ call.Calls row) :
    (s.after call).Good := by
  have hcourse := call.perform_performed s.world
  refine ⟨hcourse.sound hg.sound, hcourse.accepts.trans hg.accepts, fun row hrow hwaits => ?_⟩
  rcases hcourse.awaited hg.sound hg.accepts row hrow hwaits with
    ⟨hold, -⟩ | ⟨new, hnew, hserves⟩ | ⟨hcalls, -⟩
  · rcases hg.awaited row hold hwaits with ⟨old, hcall, hserves⟩ | hfailed
    · exact .inl ⟨old, List.mem_append_left _ hcall, hserves⟩
    · exact .inr hfailed
  · exact .inl ⟨new, List.mem_append_right _ hnew, hserves⟩
  · exact absurd hcalls (hno row)

/-- The other elements stay when one is replaced. -/
theorem mem_set_of_ne {α : Type} {l : List α} {i : Nat} {a b c : α} (hb : l[i]? = some b)
    (ha : a ∈ l) (hne : a ≠ b) : a ∈ l.set i c := by
  obtain ⟨j, hj⟩ := List.mem_iff_getElem?.1 ha
  have hij : i ≠ j := by
    rintro rfl
    rw [hb] at hj
    exact hne (Option.some.inj hj).symm
  refine List.mem_of_getElem? (i := j) ?_
  rw [List.getElem?_set_ne hij, hj]

/-- A call that will wake an execution is a call for its present version. -/
theorem calls_of_serves {call : TimerCall} {row : Execution} (h : call.Serves row) :
    call.invocation.Calls row :=
  ⟨h.execution.symm, by rw [h.version]⟩

/-- What is awaited stays so when a call is made that is not for it. -/
theorem Awaits.fire {row : Execution} (h : s.Awaits row) {i : Nat} {call : TimerCall}
    (hi : s.calls[i]? = some call) (hno : ¬ call.invocation.Calls row) (w : World)
    (new : List TimerCall) (failures : List Wakeup) :
    Awaits ⟨w, s.calls.set i { call with fired := true } ++ new, s.failed ++ failures⟩ row := by
  rcases h with ⟨other, hother, hserves⟩ | ⟨wakeup, hwakeup, hsame⟩
  · have hne : other ≠ call := by
      rintro rfl
      exact hno (calls_of_serves hserves)
    exact .inl ⟨other, List.mem_append_left _ (mem_set_of_ne hi hother hne), hserves⟩
  · exact .inr ⟨wakeup, List.mem_append_left _ hwakeup, hsame⟩

/-- A call that is made keeps a service good. If it was the call that an execution had, a new one
was asked for, or the call is on record as failed. -/
theorem Good.fire (hg : s.Good) (i : Nat) : (s.step (.fire i)).Good := by
  simp only [step]
  split
  · exact hg
  · next call hi =>
    have hcourse := call.invocation.perform_performed s.world
    refine ⟨hcourse.sound hg.sound, hcourse.accepts.trans hg.accepts, fun row hrow hwaits => ?_⟩
    rcases hcourse.awaited hg.sound hg.accepts row hrow hwaits with
      ⟨hold, hno⟩ | ⟨new, hnew, hserves⟩ | ⟨⟨hid, hv⟩, failure, hfail⟩
    · exact (hg.awaited row hold hwaits).fire hi hno _ _ _
    · exact .inl ⟨new, List.mem_append_right _ hnew, hserves⟩
    · have hnoted : call.wakeup ∈ call.failures (call.invocation.perform.exec s.world).1 := by
        rw [hfail]
        exact List.mem_singleton_self _
      have hversion : call.wakeup.version = row.version := Int.ofNat.inj (Option.some.inj hv)
      exact .inr ⟨call.wakeup, List.mem_append_right _ hnoted, hid.symm, hversion⟩

/-- An incident keeps a service good. -/
theorem Good.step (hg : s.Good) (incident : Incident) : (s.step incident).Good := by
  cases incident with
  | message channel customer message initial => exact hg.after fun _ h => h
  | start flow channel customer message initial => exact hg.after fun _ h => h
  | fire i => exact hg.fire i
  | change world => exact ⟨hg.sound, hg.accepts, hg.awaited⟩

/-- A service that is good at the start is good after all incidents. -/
theorem Good.run (hg : s.Good) (incidents : List Incident) : (s.run incidents).Good := by
  induction incidents generalizing s with
  | nil => exact hg
  | cons incident incidents ih => exact ih (hg.step incident)

/-- **No timer is lost.** Let the service take all calls, and let no execution wait for a timer at
the start. After any messages, starts, changes of time and calls, made early or late, for versions
that are past, or repeatedly, every execution that waits for a timer has a call that is still to be
made, is for its present version, and is not due before the execution may go on; or a call for its
present version was made and failed. -/
theorem no_timer_lost {w : World} (hs : w.executions.Sound) (ha : w.timers.accepts = true)
    (hn : ∀ row ∈ w.executions.rows, row.waitsForTimer = false) (incidents : List Incident) :
    ∀ row ∈ ((idle w).run incidents).world.executions.rows,
      row.status = .waiting → row.waitingFor = some timerReason →
      (∃ call ∈ ((idle w).run incidents).calls, call.fired = false ∧
        call.wakeup.execution = row.id ∧ call.wakeup.version = row.version ∧
        ∀ moment, row.resumeAt = some moment → moment.micros ≤ call.due.micros) ∨
      ∃ wakeup ∈ ((idle w).run incidents).failed,
        wakeup.execution = row.id ∧ wakeup.version = row.version := by
  have hidle : (idle w).Good := by
    refine ⟨hs, ha, fun row hrow hwaits => ?_⟩
    rw [hn row hrow] at hwaits
    cases hwaits
  intro row hrow hstatus hreason
  have hwaits : row.waitsForTimer = true := by
    rw [Execution.waitsForTimer, hstatus, hreason]
    rfl
  rcases (hidle.run incidents).awaited row hrow hwaits with ⟨call, hcall, hserves⟩ | hfailed
  · exact .inl ⟨call, hcall, hserves.fired, hserves.execution, hserves.version, hserves.due⟩
  · exact .inr hfailed

/-- A flow that pauses until it is woken. -/
def pausingGraph : FlowGraph where
  nodes := [⟨"t", "trigger", .object []⟩,
    ⟨"p", "waitForReply", .object [("expected_type", .text timerReason)]⟩]
  edges := [⟨"t", "p", none, 0⟩]

/-- A world that offers this flow. -/
def pausingWorld : World := .offering ⟨"f", some "c", .anyMessage, 0, true, true⟩ pausingGraph

/-- A message in this world. -/
def nudge : Incident :=
  .message ⟨some "c", ⟨none, none⟩⟩ "x" ⟨.null, .null, .null, .null, .null, .null⟩ []

/-- One message starts the flow, a second comes during the pause, and then the call is made that the
first had asked for. -/
def pausing : Service := (idle pausingWorld).run [nudge, nudge, .fire 0]

/-- The call was for a version that is past, and the one that the second message asked for is still
to be made. -/
theorem no_timer_lost_pausing :
    ∃ call ∈ pausing.calls, call.fired = false ∧ call.wakeup.execution = "exec-1" ∧
      call.wakeup.version = 3 := by
  have hend : (pausing.world.executions.rows, pausing.failed) =
      ([⟨"exec-1", "f", "x", some "c", some "p", .waiting, some timerReason, [], 3, none, none⟩],
        []) := by cbv
  obtain ⟨hrows, hfailed⟩ := Prod.mk.inj hend
  rcases no_timer_lost (w := pausingWorld) (.of_rows_nil rfl) rfl (fun row hrow => by cases hrow)
      [nudge, nudge, .fire 0] _ (hrows ▸ List.mem_singleton_self _) rfl rfl with
    ⟨call, hcall, hfired, hid, hv, -⟩ | ⟨wakeup, hwakeup, -⟩
  · exact ⟨call, hcall, hfired, hid, hv⟩
  · exact absurd (hfailed ▸ hwakeup) List.not_mem_nil

end Service

end ChatFlow

import ChatFlow.Proofs.Engine.Abreast
import ChatFlow.Proofs.Engine.Continuation
import ChatFlow.Proofs.Store.Owners

/-!
# Customers do not get in each other's way

A message of a customer on a channel touches nothing that belongs to others, and what comes of it
depends on nothing that belongs to others.

Main statement: `Invocation.isolated`. The executions of all others and their logs are left as they
were. In any other world that is the same to the customer (`World.SameFor`), whatever executions
others have there, whatever is logged and on record, the same comes of the message, up to the ids
that the stores hand out (`Executions.exchange`).

The two worlds are compared plan by plan: what the message sets out to do is the same in both but
for the id of the execution (`World.SameFor.planInbound`), and so is what comes of a plan
(`Plan.exec_rename`).
-/

namespace ChatFlow

/-! ## Others are spared -/

namespace World

variable {customer : String} {channel : Option String} {row : Execution}

/-- A row that is added goes to its owner. -/
theorem rowsOf_withRow (w : World) (h : Executions.isOf customer channel row = true) :
    (w.withRow row).executions.rowsOf customer channel =
      w.executions.rowsOf customer channel ++ [row] := by
  show (w.executions.rows ++ [row]).filter _ = _
  rw [List.filter_append, List.filter_cons_of_pos h, List.filter_nil]
  rfl

/-- A row that is added goes to no one else. -/
theorem rowsOfOthers_withRow (w : World) (h : Executions.isOf customer channel row = true) :
    (w.withRow row).executions.rowsOfOthers customer channel =
      w.executions.rowsOfOthers customer channel := by
  show (w.executions.rows ++ [row]).filter _ = _
  have hno : ¬ (!Executions.isOf customer channel row) = true := by rw [h]; exact Bool.false_ne_true
  rw [List.filter_append, List.filter_cons_of_neg (p := (!Executions.isOf customer channel ·)) hno,
    List.filter_nil, List.append_nil]
  rfl

end World

namespace SetsOut

variable {w w' : World} {leg : Leg} {channel : ChannelAccess} {customer : String}
  {message : InboundMessage} {initial : Object}

/-- A message is worked on with an execution of its customer. -/
theorem held_mem_rowsOf (h : SetsOut w (.inbound channel customer message initial) leg w') :
    leg.held ∈ w'.executions.rowsOf customer channel.id := by
  refine Executions.mem_rowsOf.2 ⟨h.held_mem, Executions.isOf_iff.2 ?_⟩
  cases h with
  | reply credentials attempts ha hheld hb | stranded credentials attempts ha hheld hb
  | restart credentials attempts ha hheld hb => exact hb.2
  | departure hc hg ht ha hnew =>
    cases hc
    rw [Leg.ofDeparture, hnew]
    exact ⟨rfl, rfl⟩
  | timer credentials hc => cases hc

/-- To set out for a customer spares all others. -/
theorem spares (h : SetsOut w (.inbound channel customer message initial) leg w') :
    Executions.SparesOthers customer channel.id w.executions w'.executions := by
  have hheld := (Executions.mem_rowsOf.1 h.held_mem_rowsOf).2
  cases h with
  | reply | stranded | restart | timer => exact ⟨rfl, fun _ _ => rfl⟩
  | departure => exact ⟨w.rowsOfOthers_withRow hheld, fun _ _ => rfl⟩

end SetsOut

/-- A walk that failed is logged for its own execution only. -/
theorem Walk.logged_spares {executions : Executions} (hs : executions.Sound) {held : Execution}
    {customer : String} {channel : Option String}
    (hheld : held ∈ executions.rowsOf customer channel) (walk : Walk) :
    Executions.SparesOthers customer channel executions (walk.logged held executions) := by
  unfold logged
  split
  · exact hs.spares_appendLog hheld _
  · exact .refl _
  · exact .refl _

/-- **A message spares all others**: their executions and the logs of these. -/
theorem World.spares_inbound {w : World} (hs : w.executions.Sound) (channel : ChannelAccess)
    (customer : String) (message : InboundMessage) (initial : Object) :
    Executions.SparesOthers customer channel.id w.executions
      (w.next (.invoke (.inbound channel customer message initial))).executions := by
  have hmakes := (Invocation.inbound channel customer message initial).makes w
  rw [next]
  generalize (Invocation.inbound channel customer message initial).perform.exec w = made at hmakes
  cases hmakes with
  | nothing => exact ⟨rfl, fun _ _ => rfl⟩
  | note held brought attempts ha hheld hb =>
    have hs' : (w.withAttempts attempts).executions.Sound := hs.keeps ⟨rfl, ha⟩
    have hheld' : held ∈ (w.withAttempts attempts).executions.rowsOf customer channel.id :=
      Executions.mem_rowsOf.2 ⟨hheld, Executions.isOf_iff.2 hb.2⟩
    have hkept : Executions.SparesOthers customer channel.id w.executions
        (w.withAttempts attempts).executions := ⟨rfl, fun _ _ => rfl⟩
    exact hkept.trans (hs'.spares_written hheld' _ _)
  | failure leg w' failure hplan hl =>
    exact hl.spares.trans (Walk.logged_spares (hl.sound hs) hl.held_mem_rowsOf _)
  | walk leg w' patch hplan hl =>
    have hlogged := Walk.logged_spares (hl.sound hs) hl.held_mem_rowsOf (leg.walk w')
    have hheld : leg.held ∈ (leg.walked w').executions.rowsOf customer channel.id :=
      Executions.mem_rowsOf.2 ⟨hl.held_mem_walked,
        (Executions.mem_rowsOf.1 hl.held_mem_rowsOf).2⟩
    exact (hl.spares.trans hlogged).trans ((hl.sound_walked hs).spares_written hheld _ _)

/-! ## Plans under other ids -/

/-- An outcome for an execution under another id. -/
def Outcome.rename (f : String → String) (outcome : Outcome) : Outcome :=
  { outcome with execution := outcome.execution.map f }

/-- A walk with an execution under another id. -/
def Leg.rename (f : String → String) (leg : Leg) : Leg :=
  { leg with held := leg.held.rename f }

/-- A plan for an execution under another id. -/
def Plan.rename (f : String → String) : Plan → Plan
  | .answer outcome => .answer (outcome.rename f)
  | .refuse failure => .refuse failure
  | .block flow failure => .block flow failure
  | .note held message => .note (held.rename f) message
  | .walk leg => .walk (leg.rename f)

/-- The id of an execution does not count when it is planned what to do with a message. -/
theorem Plan.rename_ofMessage (f : String → String) (w : World) (held : Execution)
    (credentials : Credentials) (message : InboundMessage) :
    (ofMessage w held credentials message).rename f =
      ofMessage w (held.rename f) credentials message := by
  have htimer : (held.rename f).waitsForTimer = held.waitsForTimer := rfl
  unfold ofMessage
  rw [htimer]
  split
  · rfl
  · unfold inFlow
    rw [show (held.rename f).flowId = held.flowId from rfl]
    cases w.flows.load? held.flowId with
    | none => rfl
    | some graph =>
    rw [Option.elim_some, Option.elim_some, show (held.rename f).status = held.status from rfl]
    split
    · unfold ofReply
      rw [show (held.rename f).currentNode = held.currentNode from rfl]
      cases held.currentNode.bind graph.node? with
      | none => rfl
      | some node =>
        dsimp only
        cases node.replyVariable? <;> rfl
    · rfl

namespace World

/-- Whether two worlds are the same to a customer on a channel: they have the same flows and the
same executions of the customer, and outside, the clock, the picks and the answers of other services
are the same. -/
structure SameFor (customer : String) (channel : Option String) (w₁ w₂ : World) : Prop where
  flows : w₁.flows = w₂.flows
  rows : w₁.executions.rowsOf customer channel = w₂.executions.rowsOf customer channel
  outside : Outside.SameAnswers w₁.outside w₂.outside
  stepLimit : w₁.stepLimit = w₂.stepLimit

/-- Whether a customer has the same executions in two worlds up to their ids, and all else that
counts when a plan is carried out is alike. -/
structure Matches (f : String → String) (L : Likeness) (customer : String)
    (channel : Option String) (w₁ w₂ : World) : Prop where
  rows : w₂.executions.rowsOf customer channel =
    (w₁.executions.rowsOf customer channel).map (·.rename f)
  outside : L.Outsides w₁.outside w₂.outside
  stepLimit : w₁.stepLimit = w₂.stepLimit

variable {w₁ w₂ : World} {customer : String} {channel : Option String} {f : String → String}
  {L : Likeness}

/-- An execution of the customer has its match. -/
theorem Matches.rename_mem (h : Matches f L customer channel w₁ w₂) {row : Execution}
    (hrow : row ∈ w₁.executions.rowsOf customer channel) :
    row.rename f ∈ w₂.executions.rowsOf customer channel :=
  h.rows ▸ List.mem_map_of_mem hrow

/-- A row is added for the customer, and its match. -/
theorem Matches.withRow (h : Matches f L customer channel w₁ w₂) {row : Execution}
    (hof : Executions.isOf customer channel row = true) :
    Matches f L customer channel (w₁.withRow row) (w₂.withRow (row.rename f)) where
  rows := by
    have hrename : Executions.isOf customer channel (row.rename f) = true := hof
    rw [rowsOf_withRow w₁ hof, rowsOf_withRow w₂ hrename, h.rows, List.map_append]
    rfl
  outside := h.outside
  stepLimit := h.stepLimit

/-- The same is written to an execution of the customer and to its match. -/
theorem Matches.withWritten (h : Matches f L customer channel w₁ w₂)
    (hf : Function.Injective f) (held : Execution) (patch : Patch)
    (entries₁ entries₂ : List LogEntry) :
    Matches f L customer channel (w₁.withWritten held patch entries₁)
      (w₂.withWritten (held.rename f) patch entries₂) where
  rows := by
    simp only [World.withWritten, Executions.rowsOf_written, h.rows, List.map_map]
    exact List.map_congr_left fun row _ => Executions.rewritten_rename hf held patch row
  outside := h.outside
  stepLimit := h.stepLimit

end World

namespace Plan

variable {w₁ w₂ : World} {customer : String} {channel : Option String} {f : String → String}
  {L : Likeness}

/-- A message is noted to an execution as to its match. -/
theorem exec_note_rename (hf : Function.Injective f)
    (h : World.Matches f L customer channel w₁ w₂) {held : Execution} (message : InboundMessage)
    (hheld : held ∈ w₁.executions.rowsOf customer channel) :
    (((Plan.note held message).rename f).carryOut.exec w₂).1 =
        ((Plan.note held message).carryOut.exec w₁).1.map (·.rename f) ∧
      World.Matches f L customer channel ((Plan.note held message).carryOut.exec w₁).2
        (((Plan.note held message).rename f).carryOut.exec w₂).2 := by
  have hmem₁ : held ∈ w₁.executions.rows := (Executions.mem_rowsOf.1 hheld).1
  have hmem₂ : held.rename f ∈ w₂.executions.rows :=
    (Executions.mem_rowsOf.1 (h.rename_mem hheld)).1
  rw [Plan.rename, exec_note message hmem₁, exec_note message hmem₂]
  exact ⟨rfl, h.withWritten hf held _ _ _⟩

/-- A walk with an execution comes to the same as one with its match. -/
theorem exec_walk_rename (hL : L.Faithful) (hf : Function.Injective f)
    (h : World.Matches f L customer channel w₁ w₂) {leg : Leg}
    (hheld : leg.held ∈ w₁.executions.rowsOf customer channel) :
    (((Plan.walk leg).rename f).carryOut.exec w₂).1 =
        ((Plan.walk leg).carryOut.exec w₁).1.map (·.rename f) ∧
      World.Matches f L customer channel ((Plan.walk leg).carryOut.exec w₁).2
        (((Plan.walk leg).rename f).carryOut.exec w₂).2 := by
  have hmem₁ : leg.held ∈ w₁.executions.rows := (Executions.mem_rowsOf.1 hheld).1
  have hmem₂ : (leg.rename f).held ∈ w₂.executions.rows :=
    (Executions.mem_rowsOf.1 (h.rename_mem hheld)).1
  have hway : leg.SameWay (leg.rename f) := ⟨rfl, rfl, rfl, rfl, rfl⟩
  have hwalk := hL.sameWalk (hway.walks h.stepLimit h.outside)
  have hwalked : World.Matches f L customer channel (leg.walked w₁) ((leg.rename f).walked w₂) := by
    refine ⟨?_, hwalk.scene.outside, h.stepLimit⟩
    rw [Executions.rowsOf, Executions.rowsOf, (leg.keeps_walked w₁).rows,
      ((leg.rename f).keeps_walked w₂).rows]
    exact h.rows
  rw [Plan.rename, exec_walk hmem₁, exec_walk hmem₂, ← hwalk.leg_patch?_eq]
  cases leg.patch? w₁ with
  | error failure => exact ⟨rfl, hwalked⟩
  | ok patch => exact ⟨rfl, hwalked.withWritten hf leg.held patch _ _⟩

end Plan

/-! ## Two worlds -/

namespace World

variable {w₁ w₂ : World} {channel : ChannelAccess} {customer : String}

/-- In worlds that are the same to a customer, the customer's executions bear no id that is handed
out next. -/
theorem SameFor.rename_eq (h : SameFor customer channel.id w₁ w₂) (hs₁ : w₁.executions.Sound)
    (hs₂ : w₂.executions.Sound) {row : Execution}
    (hrow : row ∈ w₁.executions.rowsOf customer channel.id) :
    row.rename (w₁.executions.exchange w₂.executions) = row :=
  hs₁.rename_exchange hs₂ (Executions.mem_rowsOf.1 hrow).1
    (Executions.mem_rowsOf.1 (h.rows ▸ hrow)).1

/-- Worlds that are the same to a customer match. -/
theorem SameFor.matches (h : SameFor customer channel.id w₁ w₂) (hs₁ : w₁.executions.Sound)
    (hs₂ : w₂.executions.Sound) :
    Matches (w₁.executions.exchange w₂.executions) (.parallel w₁.outside w₂.outside) customer
      channel.id w₁ w₂ := by
  refine ⟨?_, h.outside.parallel, h.stepLimit⟩
  rw [← h.rows]
  exact ((List.map_congr_left fun row hrow => h.rename_eq hs₁ hs₂ hrow).trans (List.map_id _)).symm

/-- **What a message sets out to do** is the same in worlds that are the same to its customer, and
the worlds in which it is done match. -/
theorem SameFor.planInbound (h : SameFor customer channel.id w₁ w₂) (hs₁ : w₁.executions.Sound)
    (hs₂ : w₂.executions.Sound) (message : InboundMessage) (initial : Object) :
    let f := w₁.executions.exchange w₂.executions
    (w₂.planInbound channel customer message initial).1 =
        (w₁.planInbound channel customer message initial).1.rename f ∧
      Matches f (.parallel w₁.outside w₂.outside) customer channel.id
        (w₁.planInbound channel customer message initial).2
        (w₂.planInbound channel customer message initial).2 := by
  intro f
  have hmatches := h.matches hs₁ hs₂
  have hfound := Executions.findActive?_congr h.rows
  unfold World.planInbound
  rw [← hfound, ← h.flows]
  cases hfind : w₁.executions.findActive? customer channel.id with
  | some held =>
    refine ⟨?_, hmatches⟩
    obtain ⟨hheld, hcu, hch, -⟩ := Executions.findActive?_some hfind
    have hsame : held.rename f = held :=
      h.rename_eq hs₁ hs₂ (Executions.mem_rowsOf.2 ⟨hheld, Executions.isOf_iff.2 ⟨hcu, hch⟩⟩)
    dsimp only
    rw [Plan.rename_ofMessage, hsame]
    unfold Plan.ofMessage Plan.inFlow
    rw [h.flows]
  | none =>
    cases firstStarted? message.text (w₁.flows.offered channel.id) with
    | error failure => exact ⟨rfl, hmatches⟩
    | ok chosen =>
    cases chosen with
    | none => exact ⟨rfl, hmatches⟩
    | some flow =>
    dsimp only
    rw [planStart_of_idle flow.id message initial hfind,
      planStart_of_idle flow.id message initial (hfound ▸ hfind), ← h.flows]
    cases w₁.flows.opening flow.id with
    | error failure => exact ⟨rfl, hmatches⟩
    | ok start =>
    obtain ⟨graph, trigger⟩ := start
    dsimp only
    -- both begin the same row, but each store hands out an id of its own
    have hnew := Executions.rename_newRow w₁.executions w₂.executions flow.id customer channel.id
      (some trigger.id) (initial.update message.observed)
    rw [← hnew]
    exact ⟨rfl, hmatches.withRow (Executions.isOf_iff.2 ⟨rfl, rfl⟩)⟩

end World

/-- **Customers do not get in each other's way.** A message leaves the executions of all others and
their logs as they were. In every world that is the same to its customer the same comes of it: the
same outcome or failure, the same executions of the customer, and the same messages that are sent,
up to the ids of executions. -/
theorem Invocation.isolated {w : World} (hs : w.executions.Sound) (channel : ChannelAccess)
    (customer : String) (message : InboundMessage) (initial : Object) :
    let call := Invocation.inbound channel customer message initial
    Executions.SparesOthers customer channel.id w.executions (w.next (.invoke call)).executions ∧
      ∀ w₂ : World, w₂.executions.Sound → w.SameFor customer channel.id w₂ →
        let f := w.executions.exchange w₂.executions
        (call.perform.exec w₂).1 = (call.perform.exec w).1.map (·.rename f) ∧
          (w₂.next (.invoke call)).executions.rowsOf customer channel.id =
            ((w.next (.invoke call)).executions.rowsOf customer channel.id).map (·.rename f) ∧
          ∃ sent, (w.next (.invoke call)).outside.provider.requests =
              w.outside.provider.requests ++ sent ∧
            (w₂.next (.invoke call)).outside.provider.requests =
              w₂.outside.provider.requests ++ sent := by
  intro call
  refine ⟨World.spares_inbound hs channel customer message initial, fun w₂ hs₂ hsame => ?_⟩
  intro f
  obtain ⟨hplan₂, hmatches⟩ := hsame.planInbound hs hs₂ message initial
  have hfaithful := Likeness.parallel_faithful w.outside w₂.outside
  have hf := Executions.exchange_injective w.executions w₂.executions
  have hboth : (call.perform.exec w₂).1 = (call.perform.exec w).1.map (·.rename f) ∧
      World.Matches f (.parallel w.outside w₂.outside) customer channel.id
        (call.perform.exec w).2 (call.perform.exec w₂).2 := by
    have hplanned := call.planned w
    change (call.plan w₂).1 = (call.plan w).1.rename f at hplan₂
    change World.Matches f _ customer channel.id (call.plan w).2 (call.plan w₂).2 at hmatches
    rw [call.perform_eq_plan, call.perform_eq_plan, hplan₂]
    generalize call.plan w = planned at hplanned hmatches
    cases hplanned with
    | answer | refuse | block => exact ⟨rfl, hmatches⟩
    | note held brought attempts ha hheld hb =>
      exact Plan.exec_note_rename hf hmatches brought
        (Executions.mem_rowsOf.2 ⟨hheld, Executions.isOf_iff.2 hb.2⟩)
    | walk leg w' hl => exact Plan.exec_walk_rename hfaithful hf hmatches hl.held_mem_rowsOf
  obtain ⟨hresult, hend⟩ := hboth
  exact ⟨hresult, hend.rows, hend.outside.provider.requests⟩

/-- A world in which another customer has begun the flow. -/
def crowdedWorld : World := questionWorld.next (.invoke ((saying "hi").call questionChannel "y"))

/-- A message begins the flow for its customer, under another id if someone else has begun it
before. -/
theorem Invocation.isolated_question :
    let call := (saying "hi").call questionChannel "x"
    (call.perform.exec questionWorld).1 = .ok ⟨.started, some "exec-1", some .waiting⟩ ∧
      (call.perform.exec crowdedWorld).1 = .ok ⟨.started, some "exec-2", some .waiting⟩ ∧
      Executions.SparesOthers "x" (some "c") crowdedWorld.executions
        (crowdedWorld.next (.invoke call)).executions := by
  intro call
  have hsound : questionWorld.executions.Sound := .of_rows_nil rfl
  have hcrowded : crowdedWorld.executions.Sound := World.sound_next hsound _
  have houtside : crowdedWorld.outside = questionWorld.outside := by cbv
  have hsame : questionWorld.SameFor "x" (some "c") crowdedWorld :=
    ⟨by cbv, by cbv, houtside ▸ .refl _, by cbv⟩
  have hfirst : (call.perform.exec questionWorld).1 =
      .ok ⟨.started, some "exec-1", some .waiting⟩ := by cbv
  obtain ⟨-, hboth⟩ := Invocation.isolated hsound questionChannel "x" (saying "hi").message
    (saying "hi").initial
  obtain ⟨hspares, -⟩ := Invocation.isolated hcrowded questionChannel "x" (saying "hi").message
    (saying "hi").initial
  obtain ⟨hresult, -⟩ := hboth crowdedWorld hcrowded hsame
  refine ⟨hfirst, hresult.trans ((congrArg (Except.map _) hfirst).trans ?_), hspares⟩
  cbv

end ChatFlow

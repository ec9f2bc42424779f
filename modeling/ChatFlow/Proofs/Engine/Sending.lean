import ChatFlow.Proofs.Engine.Abreast
import ChatFlow.Proofs.Gateway

/-!
# What becomes of messages does not steer a walk

The provider may take a message or not, and may answer in any way that can be read
(`Answer.IsHarmless`): the walk goes on in the same way. `Invocation.perform_withAnswers` compares
two runs of an invocation in worlds in which the provider will give other answers. If no answer that
either of them uses up is one that cannot be read, both come to the same, make the same requests and
leave the same executions; what differs is the messages on record, the answers that are left, and
what the log notes of each message (`World.SameButSending`).

The two runs are side by side by the likeness `Likeness.ofScripts`. It is not a faithful one: an
answer that cannot be read throws its run off.
-/

namespace ChatFlow

/-! ## Two scripts of answers -/

/-- Whether the same was asked on two lines to the provider, and each has still to give the rest of
its script. -/
structure Line.Scripted (script₁ script₂ : List Answer) (line₁ line₂ : Line ProviderRequest) :
    Prop where
  requests : line₁.requests = line₂.requests
  rest₁ : line₁.answers <:+ script₁
  rest₂ : line₂.answers <:+ script₂

/-- Whether the last answer of a script that a line has given cannot be read. -/
def Line.Spoiled (script : List Answer) (line : Line ProviderRequest) : Prop :=
  ∃ answer : Answer, ¬ answer.IsHarmless ∧ answer :: line.answers <:+ script

/-- An answer can be read, unless it is one of the script. -/
theorem Line.ask_harmless {script : List Answer} {line : Line ProviderRequest}
    (h : line.answers <:+ script) (request : ProviderRequest) :
    (line.ask standardDelivery request).1.IsHarmless ∨
      Spoiled script (line.ask standardDelivery request).2 := by
  unfold Line.ask
  split
  · next answer rest hl =>
    by_cases hharmless : answer.IsHarmless
    · exact .inl hharmless
    · exact .inr ⟨answer, hharmless, hl ▸ h⟩
  · exact .inl (standardDelivery_usual _).isHarmless

namespace Line.Scripted

variable {script₁ script₂ : List Answer} {line₁ line₂ : Line ProviderRequest}

theorem ask (h : Scripted script₁ script₂ line₁ line₂) (standard : Nat → Answer)
    (request : ProviderRequest) :
    Scripted script₁ script₂ (line₁.ask standard request).2 (line₂.ask standard request).2 := by
  have hrest : ∀ line : Line ProviderRequest,
      (line.ask standard request).2.answers <:+ line.answers := by
    intro line
    unfold Line.ask
    split
    · next answer rest hl => exact hl ▸ List.suffix_cons answer rest
    · exact List.nil_suffix
  exact ⟨by rw [line₁.requests_ask, line₂.requests_ask, h.requests], (hrest line₁).trans h.rest₁,
    (hrest line₂).trans h.rest₂⟩

/-- Posting a payload asks the same on both lines, and comes to a delivery on each, unless an answer
cannot be read. -/
theorem post (h : Scripted script₁ script₂ line₁ line₂) (credentials : Credentials)
    (payload : Object) :
    Abreast ⟨Scripted script₁ script₂, Line.Spoiled script₁, Line.Spoiled script₂⟩
      (fun _ _ => True) (postToProvider credentials payload line₁)
      (postToProvider credentials payload line₂) := by
  rcases postToProvider_ask credentials payload with ⟨result, hpost⟩ | ⟨request, hpost⟩
  · rw [hpost, hpost]
    cases result with
    | error failure => exact .fails failure h
    | ok delivery => exact .gives trivial h
  · rw [hpost, hpost]
    have hask := h.ask standardDelivery request
    have hharmless₁ := Line.ask_harmless h.rest₁ request
    have hharmless₂ := Line.ask_harmless h.rest₂ request
    generalize line₁.ask standardDelivery request = asked₁ at hask hharmless₁
    generalize line₂.ask standardDelivery request = asked₂ at hask hharmless₂
    -- an answer that tells of no delivery cannot be read, so it has spoiled its line
    cases hdelivery₁ : asked₁.1.delivery with
    | error failure =>
      refine .first failure (hharmless₁.resolve_left ?_)
      rintro ⟨delivery, hok⟩
      rw [hdelivery₁] at hok
      cases hok
    | ok delivery₁ =>
      cases hdelivery₂ : asked₂.1.delivery with
      | error failure =>
        refine .second failure (hharmless₂.resolve_left ?_)
        rintro ⟨delivery, hok⟩
        rw [hdelivery₂] at hok
        cases hok
      | ok delivery₂ => exact .gives trivial hask

end Line.Scripted

/-- Lines to the provider are alike on which the same was asked, whatever they answered. -/
def Likeness.ofScripts (script₁ script₂ : List Answer) : Likeness where
  provider := ⟨Line.Scripted script₁ script₂, Line.Spoiled script₁, Line.Spoiled script₂⟩
  Web := Eq
  Delivered _ _ := True
  post := Line.Scripted.post
  call h call timeout := by
    subst h
    exact ⟨rfl, rfl⟩

/-! ## Two worlds -/

namespace World

/-- The world in which the provider will give certain answers before its standard ones. -/
def withAnswers (w : World) (answers : List Answer) : World :=
  { w with outside := { w.outside with provider := { w.outside.provider with answers } } }

/-- The answers of the provider that an invocation uses up, of those that were arranged. -/
def answersUsed (w : World) (call : Invocation) : List Answer :=
  let before := w.outside.provider.answers
  let after := (w.next (.invoke call)).outside.provider.answers
  before.take (before.length - after.length)

/-- Whether worlds differ in nothing but the messages on record, the answers that the provider has
left, and what the logs note of what became of messages. -/
structure SameButSending (w₁ w₂ : World) : Prop where
  channels : w₁.channels = w₂.channels
  flows : w₁.flows = w₂.flows
  rows : w₁.executions.rows = w₂.executions.rows
  logs : List.Forall₂ (fun logged₁ logged₂ => logged₁.1 = logged₂.1 ∧
    LogEntry.Alike (fun _ _ => True) logged₁.2 logged₂.2) w₁.executions.logs w₂.executions.logs
  attempts : w₁.executions.attempts = w₂.executions.attempts
  handled : w₁.handled = w₂.handled
  clock : w₁.outside.clock = w₂.outside.clock
  requests : w₁.outside.provider.requests = w₂.outside.provider.requests
  web : w₁.outside.web = w₂.outside.web
  picks : w₁.outside.picks = w₂.outside.picks
  timers : w₁.timers = w₂.timers
  stepLimit : w₁.stepLimit = w₂.stepLimit

variable {w w₁ w₂ : World}

/-- Logs are alike to themselves. -/
theorem logs_alike_refl (logs : List (String × LogEntry)) :
    List.Forall₂ (fun logged₁ logged₂ : String × LogEntry => logged₁.1 = logged₂.1 ∧
      LogEntry.Alike (fun _ _ => True) logged₁.2 logged₂.2) logs logs :=
  List.forall₂_same.2 fun _ _ => ⟨rfl, .same _⟩

/-- Other answers to come make no other difference. -/
theorem sameButSending_withAnswers (w : World) (answers₁ answers₂ : List Answer) :
    (w.withAnswers answers₁).SameButSending (w.withAnswers answers₂) :=
  ⟨rfl, rfl, rfl, logs_alike_refl _, rfl, rfl, rfl, rfl, rfl, rfl, rfl, rfl⟩

/-- The same is written to worlds that differ only so, but for what became of messages. -/
theorem SameButSending.withWritten (h : w₁.SameButSending w₂) (held : Execution) (patch : Patch)
    {entries₁ entries₂ : List LogEntry}
    (he : List.Forall₂ (LogEntry.Alike fun _ _ => True) entries₁ entries₂) :
    (w₁.withWritten held patch entries₁).SameButSending (w₂.withWritten held patch entries₂) where
  channels := h.channels
  flows := h.flows
  rows := by
    show w₁.executions.rewrite held patch = w₂.executions.rewrite held patch
    rw [Executions.rewrite, Executions.rewrite, h.rows]
  logs := by
    refine List.rel_append h.logs ?_
    rw [List.forall₂_map_left_iff, List.forall₂_map_right_iff]
    exact he.imp fun _ _ halike => ⟨rfl, halike⟩
  attempts := h.attempts
  handled := h.handled
  clock := h.clock
  requests := h.requests
  web := h.web
  picks := h.picks
  timers := by
    simp only [World.withWritten, h.timers, h.clock]
  stepLimit := h.stepLimit

end World

/-! ## Plans -/

namespace World

variable (w : World) (answers : List Answer)

/-- A start does not look at the answers that are to come. -/
theorem planStart_withAnswers (flow : String) (channel : ChannelAccess) (customer : String)
    (message : InboundMessage) (initial : Object) :
    (w.withAnswers answers).planStart flow channel customer message initial =
      ((w.planStart flow channel customer message initial).1,
        (w.planStart flow channel customer message initial).2.withAnswers answers) := by
  have hflows : (w.withAnswers answers).flows = w.flows := rfl
  have hexecutions : (w.withAnswers answers).executions = w.executions := rfl
  unfold planStart
  rw [hflows, hexecutions]
  cases w.flows.load? flow with
  | none => rfl
  | some graph =>
  dsimp only
  cases graph.trigger? with
  | none => rfl
  | some trigger =>
  dsimp only
  split
  · rfl
  · cases w.executions.findActive? customer channel.id with
    | none => rfl
    | some held =>
      dsimp only
      split <;> rfl

end World

/-- What an invocation sets out to do does not depend on the answers that are to come. -/
theorem Invocation.plan_withAnswers (call : Invocation) (w : World) (answers : List Answer) :
    call.plan (w.withAnswers answers) = ((call.plan w).1, (call.plan w).2.withAnswers answers) := by
  have hflows : (w.withAnswers answers).flows = w.flows := rfl
  have hexecutions : (w.withAnswers answers).executions = w.executions := rfl
  cases call with
  | start flow channel customer message initial =>
    exact w.planStart_withAnswers answers flow channel customer message initial
  | inbound channel customer message initial =>
    simp only [plan, World.planInbound]
    rw [hflows, hexecutions]
    cases w.executions.findActive? customer channel.id with
    | some held => rfl
    | none =>
      cases firstStarted? message.text (w.flows.offered channel.id) with
      | error failure => rfl
      | ok chosen =>
        cases chosen with
        | none => rfl
        | some flow =>
          exact w.planStart_withAnswers answers flow.id channel customer message initial
  | timer id version =>
    have hclock : (w.withAnswers answers).outside.clock = w.outside.clock := rfl
    simp only [plan, World.planTimer]
    rw [hexecutions, hclock]
    cases w.executions.get? id with
    | none => rfl
    | some held =>
      dsimp only
      split
      · rfl
      · split <;> rfl

/-! ## Two runs -/

/-- What lies outside is alike when the provider will give other answers. -/
theorem World.outsides_ofScripts (w : World) (answers₁ answers₂ : List Answer) :
    (Likeness.ofScripts answers₁ answers₂).Outsides (w.withAnswers answers₁).outside
      (w.withAnswers answers₂).outside :=
  ⟨rfl, rfl, ⟨rfl, List.suffix_rfl, List.suffix_rfl⟩, rfl⟩

/-- An answer that spoiled a line is one that was used up. -/
theorem Line.Spoiled.mem_take {script : List Answer} {line : Line ProviderRequest}
    (h : Spoiled script line) :
    ∃ answer ∈ script.take (script.length - line.answers.length), ¬ answer.IsHarmless := by
  obtain ⟨answer, hharmful, before, rfl⟩ := h
  -- what was used up is what stands before the rest, and the harmful answer comes last in it
  have hused : (before ++ answer :: line.answers).take
      ((before ++ answer :: line.answers).length - line.answers.length) = before ++ [answer] := by
    have hlength : (before ++ answer :: line.answers).length - line.answers.length =
        (before ++ [answer]).length := by
      simp only [List.length_append, List.length_cons, List.length_nil]
      omega
    rw [hlength, List.append_cons before answer line.answers, List.take_left]
  exact ⟨answer, hused ▸ List.mem_append_right _ (List.mem_singleton_self _), hharmful⟩

/-- Walks that came to the same, but for what became of messages, are written in the same way. -/
theorem Plan.exec_walk_withAnswers {leg : Leg} {w : World} {answers₁ answers₂ : List Answer}
    (hheld : leg.held ∈ w.executions.rows)
    (h : (Likeness.ofScripts answers₁ answers₂).SameWalk (leg.walk (w.withAnswers answers₁))
      (leg.walk (w.withAnswers answers₂))) :
    ((Plan.walk leg).carryOut.exec (w.withAnswers answers₁)).1 =
        ((Plan.walk leg).carryOut.exec (w.withAnswers answers₂)).1 ∧
      ((Plan.walk leg).carryOut.exec (w.withAnswers answers₁)).2.SameButSending
        ((Plan.walk leg).carryOut.exec (w.withAnswers answers₂)).2 := by
  have hheld' : ∀ answers, leg.held ∈ (w.withAnswers answers).executions.rows := fun _ => hheld
  have hwalked : (leg.walked (w.withAnswers answers₁)).SameButSending
      (leg.walked (w.withAnswers answers₂)) := by
    have hlogged := h.logged_eq leg.held w.executions
    refine ⟨rfl, rfl, congrArg _ hlogged, ?_, congrArg _ hlogged, rfl, h.scene.outside.clock,
      h.scene.outside.provider.requests, h.scene.outside.web, h.scene.outside.picks, rfl, rfl⟩
    show List.Forall₂ _ ((leg.walk _).logged leg.held w.executions).logs
      ((leg.walk _).logged leg.held w.executions).logs
    rw [hlogged]
    exact World.logs_alike_refl _
  rw [exec_walk (hheld' _), exec_walk (hheld' _), h.leg_patch?_eq]
  cases leg.patch? (w.withAnswers answers₂) with
  | error failure => exact ⟨rfl, hwalked⟩
  | ok patch =>
    have hsame : List.Forall₂ (LogEntry.Alike fun _ _ => True) leg.before leg.before :=
      List.forall₂_same.2 fun _ _ => .same _
    exact ⟨rfl, hwalked.withWritten leg.held patch (List.rel_append hsame h.entries)⟩

/-- **What becomes of messages does not steer an invocation.** With other answers of the provider it
comes to the same and differs in nothing but the messages on record, the answers that are left, and
what the logs note of what became of messages, as long as it can be told of each answer what became
of the message. -/
theorem Invocation.perform_withAnswers (call : Invocation) (w : World)
    (answers₁ answers₂ : List Answer)
    (h₁ : ∀ answer ∈ (w.withAnswers answers₁).answersUsed call, answer.IsHarmless)
    (h₂ : ∀ answer ∈ (w.withAnswers answers₂).answersUsed call, answer.IsHarmless) :
    (call.perform.exec (w.withAnswers answers₁)).1 =
        (call.perform.exec (w.withAnswers answers₂)).1 ∧
      ((w.withAnswers answers₁).next (.invoke call)).SameButSending
        ((w.withAnswers answers₂).next (.invoke call)) := by
  have hplanned := call.planned w
  rcases hplan : call.plan w with ⟨plan, w'⟩
  have hexec : ∀ answers, call.perform.exec (w.withAnswers answers) =
      plan.carryOut.exec (w'.withAnswers answers) := by
    intro answers
    rw [call.perform_eq_plan, call.plan_withAnswers, hplan]
  simp only [World.answersUsed, World.next, hexec] at h₁ h₂ ⊢
  rw [hplan] at hplanned
  cases hplanned with
  | answer outcome attempts timers ha => exact ⟨rfl, World.sameButSending_withAnswers _ _ _⟩
  | refuse failure hf => exact ⟨rfl, World.sameButSending_withAnswers _ _ _⟩
  | block flow failure attempts ha hb => exact ⟨rfl, World.sameButSending_withAnswers _ _ _⟩
  | note held message attempts ha hheld hb hw =>
    have hheld' : ∀ answers,
        held ∈ ((w.withAttempts attempts).withAnswers answers).executions.rows := fun _ => hheld
    rw [Plan.exec_note message (hheld' _), Plan.exec_note message (hheld' _)]
    exact ⟨rfl, (World.sameButSending_withAnswers _ _ _).withWritten held _
      (List.forall₂_same.2 fun _ _ => .same _)⟩
  | walk leg w' hl =>
    have hheld : ∀ answers, leg.held ∈ (w'.withAnswers answers).executions.rows :=
      fun _ => hl.held_mem
    have hlimit : (w'.withAnswers answers₁).stepLimit = (w'.withAnswers answers₂).stepLimit := rfl
    have hwalks := (Leg.SameWay.refl leg).walks hlimit (w'.outsides_ofScripts answers₁ answers₂)
    rw [Plan.outside_exec_walk (hheld _)] at h₁ h₂
    cases hwalks with
    | same h => exact Plan.exec_walk_withAnswers hl.held_mem h
    | first node cause he ho =>
      obtain ⟨answer, hused, hharmful⟩ := Line.Spoiled.mem_take ho
      exact absurd (h₁ answer hused) hharmful
    | second node cause he ho =>
      obtain ⟨answer, hused, hharmful⟩ := Line.Spoiled.mem_take ho
      exact absurd (h₂ answer hused) hharmful

/-- A flow that greets the customer and ends. -/
def greetingGraph : FlowGraph where
  nodes := [⟨"t", "trigger", .null⟩, ⟨"m", "sendText", .object [("message", .text "Hello")]⟩,
    ⟨"e", "end", .null⟩]
  edges := [⟨"t", "m", none, 0⟩, ⟨"m", "e", none, 1⟩]

/-- A world that offers the flow. -/
def greetingWorld : World := .offering ⟨"f", some "c", .anyMessage, 0, true, true⟩ greetingGraph

/-- A first message. -/
def greetingMessage : InboundMessage := ⟨.text "text", .text "hi", .null, .null, .null, .null⟩

/-- The start of the flow. -/
def greetingCall : Invocation :=
  .start "f" ⟨some "c", ⟨some "token", some "1"⟩⟩ "x" greetingMessage []

/-- The walk on which the start sets out. -/
def greetingLeg : Leg :=
  .ofDeparture ⟨greetingGraph, ⟨"t", "trigger", .null⟩,
    greetingWorld.executions.newRow "f" "x" (some "c") (some "t") greetingMessage.observed⟩
    ⟨some "token", some "1"⟩ greetingMessage

theorem greetingCall_plan :
    greetingCall.plan greetingWorld =
      (.walk greetingLeg, greetingWorld.withRow greetingLeg.held) := by
  have hgraph : greetingWorld.flows.load? "f" = some greetingGraph := by cbv
  simp only [greetingCall, Invocation.plan, World.planStart, hgraph]
  rfl

/-- A greeting that is lost on the way comes to the same as one that the provider takes. -/
theorem Invocation.perform_withAnswers_greeting :
    let lost : List Answer := [.disconnected "ConnectError" "down"]
    (greetingWorld.withAnswers lost).answersUsed greetingCall = lost ∧
      (greetingCall.perform.exec (greetingWorld.withAnswers lost)).1 =
        (greetingCall.perform.exec (greetingWorld.withAnswers [])).1 ∧
      ((greetingWorld.withAnswers lost).next (.invoke greetingCall)).SameButSending
        ((greetingWorld.withAnswers []).next (.invoke greetingCall)) := by
  intro lost
  have hused : (greetingWorld.withAnswers lost).answersUsed greetingCall = lost := by
    have hheld : greetingLeg.held ∈
        ((greetingWorld.withRow greetingLeg.held).withAnswers lost).executions.rows :=
      List.mem_append_right _ (List.mem_singleton_self _)
    have hrest : (greetingLeg.walk ((greetingWorld.withRow greetingLeg.held).withAnswers
        lost)).scene.outside.provider.answers = [] := by decide +kernel
    rw [World.answersUsed, World.next, greetingCall.perform_eq_plan, greetingCall.plan_withAnswers,
      greetingCall_plan, Plan.outside_exec_walk hheld, hrest]
    rfl
  refine ⟨hused, greetingCall.perform_withAnswers greetingWorld lost [] ?_ ?_⟩
  · rw [hused]
    exact List.forall_mem_singleton.2 (Answer.isHarmless_disconnected _ _)
  · intro answer hanswer
    cases List.mem_of_mem_take hanswer

end ChatFlow

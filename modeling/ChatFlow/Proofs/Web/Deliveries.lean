import ChatFlow.Proofs.Engine.Events
import ChatFlow.Web.Routes

/-!
# Deliveries

A request that delivers is read first (`WebCall.delivered`). The message in it is noted under its
id if the channel can be used and the id is new (`World.admitted?`), prepared (`Work.prepare`), and
handed over to the engine (`Work.report`). What is handed over is `World.handedOver?`: it is nothing
if the request is turned away, and also if preparing fails, though the message is noted by then.

The ids of handled messages only grow, and a message is handed over only after its id was added to
them. Hence no id is handed over twice, whatever else happens to the world in between.

Main statements: `WebCall.answered`, all that a request can do; `World.handed_over_once`, that the
engine gets a message at most once, and that a request which is turned away changes nothing.
-/

namespace ChatFlow

/-! ## What is taken of a delivery -/

/-- Whether data come from the provider's service. -/
def isDelivery (data : Object) : Bool :=
  match data.get "object" with
  | .text s => s == deliveryObject
  | _ => false

/-- The channel at which a request delivers. -/
def WebCall.channel? (call : WebCall) : Option String :=
  match Route.ofPath? call.path, call.method with
  | some (.webhook channel), "POST" => some channel
  | _, _ => none

/-- What a delivery brings: a message, or a reply if there is none to be handled. -/
def WebCall.delivered (call : WebCall) : Except Failure (Reply ⊕ Delivered) :=
  match (readJson? call.body).bind Value.object? with
  | none => .error .malformedDelivery
  | some data =>
    if isDelivery data then
      match (deliveredValue? data).bind Delivered.ofValue? with
      | none => .error .malformedDelivery
      | some none => .ok (.inl (.ok [("status", .text "ignored")]))
      | some (some message) => .ok (.inr message)
    else .ok (.inl (.refused 400 (.text "Not a WhatsApp webhook")))

/-- Handles the message of a delivery, if the channel is there and the message was not handled
before. -/
def Work.handleOnce (channel : String) (message : Delivered) : Work Reply := do
  match (← get).channels.usable? (some channel) with
  | none => return .refused 404 (.text "Config not found")
  | some config =>
    let id ← need (message.entry.field? "id")
    if ← noteHandled id then handleDelivered config message
    else return .ok [("status", .text "duplicate")]

namespace Work

@[simp] theorem exec_need {α : Type} (value : Option α) (w : World) :
    (need value).exec w = (value.elim (.error .malformedDelivery) .ok, w) := by
  cases value <;> rfl

/-- Receiving a delivery is reading it, and then handling the message that it brings. -/
theorem exec_receiveDelivery (channel : String) (call : WebCall) (w : World) :
    (receiveDelivery channel call).exec w =
      proceed (Sum.elim pure (handleOnce channel)) (call.delivered, w) := by
  simp only [receiveDelivery, exec_bind, exec_need, WebCall.delivered]
  cases (readJson? call.body).bind Value.object? with
  | none => rfl
  | some data =>
  simp only [Option.elim_some, proceed_ok]
  split
  · next name hname =>
    by_cases hs : name = deliveryObject
    · have hours : isDelivery data = true := by
        rw [isDelivery, hname, hs]
        rfl
      have hno : (name != deliveryObject) = false := by rw [hs, bne_self_eq_false]
      simp only [hours, hno, Bool.false_eq_true, if_true, if_false, exec_bind, exec_need]
      cases deliveredValue? data with
      | none => rfl
      | some value =>
      simp only [Option.elim_some, proceed_ok, Option.bind_some]
      rcases Delivered.ofValue? value with _ | _ | message
      · rfl
      · rfl
      · rfl
    · have hother : isDelivery data = false := by
        rw [isDelivery, hname]
        exact beq_false_of_ne hs
      rw [if_pos (bne_iff_ne.2 hs)]
      simp only [hother, Bool.false_eq_true, if_false]
      rfl
  · next hname =>
    have hother : isDelivery data = false := by
      unfold isDelivery
      split
      · next name hfound => exact absurd hfound (hname name)
      · rfl
    simp only [hother, Bool.false_eq_true, if_false]
    rfl

end Work

/-! ## Messages that are new -/

/-- The channel of a delivery, and the id under which its message is noted if it was not noted
before. -/
def World.admitted? (w : World) (channel : String) (message : Delivered) :
    Option (Channel × String) := do
  let config ← w.channels.usable? (some channel)
  let given ← message.entry.field? "id"
  let id ← (← columnText? given)
  if w.handled.contains id then none else some (config, id)

/-- The world after a message was noted. -/
def World.noting (w : World) (id : String) : World :=
  { w with handled := w.handled ++ [id] }

/-- What can come of the message in a delivery: nothing is done, or it is noted and handled. -/
inductive Admitted (w : World) (channel : String) (message : Delivered) :
    Except Failure Reply × World → Prop where
  | passed (result : Except Failure Reply) (h : w.admitted? channel message = none) :
      Admitted w channel message (result, w)
  | noted (config : Channel) (id : String) (h : w.admitted? channel message = some (config, id))
      (hnew : id ∉ w.handled) :
      Admitted w channel message ((Work.handleDelivered config message).exec (w.noting id))

theorem Work.handleOnce_admitted (channel : String) (message : Delivered) (w : World) :
    Admitted w channel message ((handleOnce channel message).exec w) := by
  simp only [handleOnce, noteHandled, exec_bind, exec_get, proceed_ok]
  cases hconfig : w.channels.usable? (some channel) with
  | none => exact .passed _ (by simp [World.admitted?, hconfig])
  | some config =>
  simp only [exec_bind, exec_need]
  cases hgiven : message.entry.field? "id" with
  | none => exact .passed _ (by simp [World.admitted?, hgiven])
  | some given =>
  simp only [Option.elim_some, proceed_ok, exec_bind, exec_get, exec_need, noteHandled?]
  cases hid : columnText? given with
  | none => exact .passed _ (by simp [World.admitted?, hgiven, hid])
  | some id? =>
  cases id? with
  | none => exact .passed _ (by simp [World.admitted?, hgiven, hid])
  | some id =>
  dsimp only
  by_cases hold : w.handled.contains id = true
  · rw [if_pos hold]
    have hmem : id ∈ w.handled := List.contains_iff_mem.1 hold
    exact .passed _ (by simp [World.admitted?, hgiven, hid, hmem])
  · rw [if_neg hold]
    have hnew : id ∉ w.handled := fun hmem => hold (List.contains_iff_mem.2 hmem)
    refine .noted config id ?_ hnew
    simp [World.admitted?, hconfig, hgiven, hid, hnew]

/-! ## Handing over to the engine -/

namespace Work

/-- What is done with a new message before the engine is invoked: it is marked as read, and put on
record. -/
def prepare (channel : Channel) (message : Delivered) : Work Invocation := do
  let customer ← need ((columnText? message.customer).bind id)
  let _ ← post channel.credentials (readPayload (message.entry.get "id"))
  let content ← need (InboundMessage.ofEntry? message.entry)
  let name ← need message.name?
  recordMessage ⟨some channel.id, customer, "inbound", content.type, content.text, .null, .null,
    name⟩
  return .inbound ⟨some channel.id, channel.credentials⟩ customer content (message.initial name)

/-- The reply to a message with which the engine failed. -/
def errorReply : Reply := ⟨500, .json (.object [("status", .text "error")])⟩

/-- Invokes the engine, and replies what it did. -/
def report (call : Invocation) : Work Reply :=
  try return outcomeReply (← call.perform) catch _ => return errorReply

/-- A new message is prepared and handed over to the engine. -/
theorem handleDelivered_eq (channel : Channel) (message : Delivered) :
    handleDelivered channel message = prepare channel message >>= report := by
  simp only [handleDelivered, prepare, bind_assoc, pure_bind]
  rfl

/-- The engine's work is done, whatever it comes to, and there is a reply. -/
theorem exec_report (call : Invocation) (w : World) :
    (report call).exec w =
      (.ok (match (call.perform.exec w).1 with
        | .ok outcome => outcomeReply outcome
        | .error _ => errorReply), (call.perform.exec w).2) := by
  -- The early return of a `try` is a value here, which the work after it takes apart.
  show (tryCatch
      (call.perform >>= fun outcome =>
        (pure (.error (outcomeReply outcome)) : Work (Except Reply Reply)))
      (fun _ => pure (.error errorReply)) >>= fun early =>
        (Except.casesOn early pure pure : Work Reply)).exec w = _
  rw [exec_bind, exec_tryCatch, exec_bind]
  rcases call.perform.exec w with ⟨_ | _, _⟩ <;> rfl

/-- Whether work changes nothing but what lies outside. -/
def StaysOutside {α : Type} (work : Work α) : Prop :=
  ∀ w, ∃ result outside, work.exec w = (result, { w with outside })

theorem StaysOutside.bind {α β : Type} {work : Work α} {next : α → Work β}
    (h : work.StaysOutside) (hnext : ∀ a, (next a).StaysOutside) :
    (work >>= next).StaysOutside := by
  intro w
  obtain ⟨result, outside, hexec⟩ := h w
  rw [exec_bind, hexec]
  cases result with
  | error failure => exact ⟨_, outside, rfl⟩
  | ok a =>
    obtain ⟨result, outside, hexec⟩ := hnext a { w with outside }
    exact ⟨result, outside, hexec⟩

theorem staysOutside_need {α : Type} (value : Option α) : (need value).StaysOutside :=
  fun w => ⟨_, w.outside, exec_need value w⟩

theorem staysOutside_post (credentials : Credentials) (payload : Object) :
    (post credentials payload).StaysOutside := by
  intro w
  simp only [post, exec_bind, exec_get, proceed_ok, exec_modify, exec_ofExcept]
  exact ⟨_, _, rfl⟩

/-- Nothing but what lies outside changes before the engine is invoked. -/
theorem staysOutside_prepare (channel : Channel) (message : Delivered) :
    (prepare channel message).StaysOutside := by
  refine (staysOutside_need _).bind fun customer => ?_
  refine (staysOutside_post _ _).bind fun _ => ?_
  refine (staysOutside_need _).bind fun content => ?_
  refine (staysOutside_need _).bind fun name => ?_
  exact fun w => ⟨_, _, rfl⟩

end Work

/-! ## What a request does -/

/-- What the engine is handed of a delivery: the message, the id under which it was noted, how the
engine is invoked, and in which world. -/
structure Handover where
  message : Delivered
  id : String
  call : Invocation
  world : World

namespace World

/-- What the engine is handed of a message in a delivery, if it is. -/
def handOver? (w : World) (channel : String) (message : Delivered) : Option Handover :=
  match w.admitted? channel message with
  | none => none
  | some (config, id) =>
    match (Work.prepare config message).exec (w.noting id) with
    | (.ok call, world) => some ⟨message, id, call, world⟩
    | (.error _, _) => none

/-- What the engine is handed of a request, if it is. That the request does this, and invokes the
engine in no other case, is `WebCall.answered`. -/
def handedOver? (w : World) (call : WebCall) : Option Handover :=
  match call.channel?, call.delivered with
  | some channel, .ok (.inr message) => w.handOver? channel message
  | _, _ => none

end World

/-- Whether a reply says that a delivery was not taken: it is refused, or there was nothing in it
that is new. -/
def Reply.TurnsAway (reply : Reply) : Prop :=
  reply.status = 400 ∨ reply.status = 404 ∨ reply = .ok [("status", .text "ignored")] ∨
    reply = .ok [("status", .text "duplicate")]

/-- All that a request can do. -/
inductive WebCall.Answered (w : World) (call : WebCall) : Reply × World → Prop where
  /-- Nothing changes. -/
  | idle (reply : Reply) (h : w.handedOver? call = none) : Answered w call (reply, w)
  /-- A flow is published or withdrawn. -/
  | publish (reply : Reply) (flows : Flows) (h : w.handedOver? call = none)
      (hreply : ¬ reply.TurnsAway) : Answered w call (reply, { w with flows })
  /-- A message is noted, but the request fails before the engine is invoked. -/
  | failed (reply : Reply) (id : String) (outside : Outside) (h : w.handedOver? call = none)
      (hreply : ¬ reply.TurnsAway) :
      Answered w call (reply, { w.noting id with outside })
  /-- A message is noted and handed over to the engine. -/
  | handed (reply : Reply) (handover : Handover) (outside : Outside)
      (h : w.handedOver? call = some handover) (hnew : handover.id ∉ w.handled)
      (hworld : handover.world = { w.noting handover.id with outside })
      (hreply : ¬ reply.TurnsAway) :
      Answered w call (reply, (handover.call.perform.exec handover.world).2)

namespace Reply

/-- The reply to a request whose work came to a result. -/
def ofResult : Except Failure Reply → Reply
  | .ok reply => reply.sent
  | .error _ => failed

theorem not_turnsAway_failed : ¬ failed.TurnsAway := by
  rintro (h | h | h | h) <;> cases h

/-- A reply that tells more than one thing turns nothing away. -/
theorem not_turnsAway_sent {fields : Object} (h : fields.length ≠ 1) :
    ¬ (ok fields).sent.TurnsAway := by
  unfold sent
  dsimp only [ok]
  split
  · exact not_turnsAway_failed
  · rintro (hstatus | hstatus | hfields | hfields)
    · cases hstatus
    · cases hstatus
    · cases hfields
      exact h rfl
    · cases hfields
      exact h rfl

/-- What the engine did is told in three fields. -/
theorem not_turnsAway_outcomeReply (outcome : Outcome) :
    ¬ (Work.outcomeReply outcome).sent.TurnsAway :=
  not_turnsAway_sent (by simp)

theorem not_turnsAway_errorReply : ¬ Work.errorReply.sent.TurnsAway := by
  rintro (h | h | h | h) <;> cases h

end Reply

namespace WebCall

variable {w : World} {call : WebCall}

/-- A request is answered by the work of its route. -/
theorem run_answer (call : WebCall) (w : World) :
    call.answer.run w =
      match Route.ofPath? call.path with
      | none => (answerElsewhere call.path, w)
      | some route =>
        (.ofResult ((route.answer call).exec w).1, ((route.answer call).exec w).2) := by
  rw [answer]
  cases Route.ofPath? call.path with
  | none => rfl
  | some route =>
    simp only [StateT.run_bind]
    have hwork : StateT.run (ExceptT.run (route.answer call)) w = (route.answer call).exec w := rfl
    rw [hwork]
    rcases (route.answer call).exec w with ⟨_ | _, _⟩ <;> rfl

/-- Asking whether an address belongs to a channel changes nothing. -/
theorem exec_verifyWebhook (channel : String) (call : WebCall) (w : World) :
    ((verifyWebhook channel call).exec w).2 = w := by
  unfold verifyWebhook
  split
  · rfl
  · simp only [Work.exec_bind, Work.exec_get, Work.proceed_ok]
    cases w.channels.usable? (some channel) with
    | none => rfl
    | some config =>
      dsimp only
      split <;> rfl

theorem exec_answerLogs (id : String) (w : World) : ((answerLogs id).exec w).2 = w := by
  simp only [answerLogs, Work.exec_bind, Work.exec_get, Work.proceed_ok]
  cases w.executions.get? id <;> rfl

theorem exec_answerMessages (channel customer : String) (limit : Int) (w : World) :
    ((answerMessages channel customer limit).exec w).2 = w := by
  unfold answerMessages
  split <;> rfl

/-- Publishing changes the flows only, and nothing at all unless it succeeds. -/
theorem answered_publish (h : w.handedOver? call = none) (flow : String) (published : Bool) :
    call.Answered w (.ofResult ((answerPublish flow published).exec w).1,
      ((answerPublish flow published).exec w).2) := by
  simp only [answerPublish, Work.exec_bind, Work.exec_get, Work.proceed_ok]
  cases w.flows.publish flow published with
  | error failure => cases failure <;> exact .idle _ h
  | ok result =>
    rcases result with ⟨_ | after, flows⟩
    · exact .idle _ h
    · exact .publish _ flows h (Reply.not_turnsAway_sent (by simp))

/-- What a delivery does. -/
theorem answered_delivery {channel : String} (hchannel : call.channel? = some channel) :
    call.Answered w (.ofResult ((receiveDelivery channel call).exec w).1,
      ((receiveDelivery channel call).exec w).2) := by
  rw [Work.exec_receiveDelivery]
  rcases hbrings : call.delivered with failure | reply | message
  · exact .idle _ (by simp [World.handedOver?, hbrings])
  · exact .idle _ (by simp [World.handedOver?, hbrings])
  have hover : w.handedOver? call = w.handOver? channel message := by
    simp only [World.handedOver?, hchannel, hbrings]
  dsimp only [Work.proceed_ok, Sum.elim_inr]
  have hadmitted := Work.handleOnce_admitted channel message w
  generalize (Work.handleOnce channel message).exec w = result at hadmitted
  cases hadmitted with
  | passed result h =>
    refine .idle _ (hover.trans ?_)
    rw [World.handOver?, h]
  | noted config id h hnew =>
    obtain ⟨prepared, outside, hexec⟩ := Work.staysOutside_prepare config message (w.noting id)
    rw [Work.handleDelivered_eq, Work.exec_bind, hexec]
    cases prepared with
    | error failure =>
      refine .failed _ id outside (hover.trans ?_) Reply.not_turnsAway_failed
      simp only [World.handOver?, h, hexec]
    | ok invocation =>
      rw [Work.proceed_ok, Work.exec_report]
      refine .handed _ ⟨message, id, invocation, _⟩ outside (hover.trans ?_) hnew rfl ?_
      · simp only [World.handOver?, h, hexec]
      · dsimp only [Reply.ofResult]
        split
        · exact Reply.not_turnsAway_outcomeReply _
        · exact Reply.not_turnsAway_errorReply

/-- Work that changes nothing answers a request that delivers nothing. -/
theorem answered_idle {work : Work Reply} (h : w.handedOver? call = none)
    (hwork : (work.exec w).2 = w) :
    call.Answered w (.ofResult (work.exec w).1, (work.exec w).2) := by
  rw [hwork]
  exact .idle _ h

/-- Only requests that deliver hand anything over to the engine. -/
theorem handedOver?_eq_none
    (h : ∀ channel, Route.ofPath? call.path = some (.webhook channel) → call.method ≠ "POST") :
    w.handedOver? call = none := by
  have hchannel : call.channel? = none := by
    unfold channel?
    split
    · next channel hpath hmethod => exact absurd hmethod (h channel hpath)
    · rfl
  rw [World.handedOver?, hchannel]

/-- **All that a request can do.** -/
theorem answered (call : WebCall) (w : World) : call.Answered w (call.answer.run w) := by
  rw [run_answer]
  cases hroute : Route.ofPath? call.path with
  | none => exact .idle _ (handedOver?_eq_none (by simp [hroute]))
  | some route =>
  dsimp only
  fun_cases Route.answer route call with
  | case1 | case2 | case6 | case9 =>
    exact answered_idle (handedOver?_eq_none (by simp [hroute])) rfl
  | case3 channel hmethod =>
    exact answered_idle (handedOver?_eq_none (by simp [hmethod])) (exec_verifyWebhook ..)
  | case4 channel hmethod => exact answered_delivery (by simp only [channel?, hroute, hmethod])
  | case5 flow hmethod published =>
    exact answered_publish (handedOver?_eq_none (by simp [hroute])) flow published
  | case7 execution =>
    exact answered_idle (handedOver?_eq_none (by simp [hroute])) (exec_answerLogs ..)
  | case8 channel customer hmethod limit =>
    exact answered_idle (handedOver?_eq_none (by simp [hroute])) (exec_answerMessages ..)
  | case10 _ _ _ _ hdelivery =>
    refine answered_idle (handedOver?_eq_none fun channel hpath => ?_) rfl
    exact hdelivery channel (Option.some.inj (hroute.symm.trans hpath))

/-- **A reply that turns a delivery away means that nothing has changed**, and nothing was sent. -/
theorem eq_of_turnsAway (h : (call.answer.run w).1.TurnsAway) : (call.answer.run w).2 = w := by
  have hanswered := call.answered w
  generalize call.answer.run w = result at h hanswered
  cases hanswered with
  | idle => rfl
  | publish reply flows hnone hreply | failed reply id outside hnone hreply
  | handed reply handover outside hover hnew hworld hreply => exact absurd h hreply

/-- A request that delivers is posted to the webhook of a channel. -/
theorem channel?_some {channel : String} (h : call.channel? = some channel) :
    Route.ofPath? call.path = some (.webhook channel) ∧ call.method = "POST" := by
  unfold channel? at h
  split at h
  · next hpath hmethod =>
    cases h
    exact ⟨hpath, hmethod⟩
  · cases h

/-- A message that was noted is a duplicate. -/
theorem run_answer_of_noted {channel id : String} {config : Channel} {message : Delivered}
    (hchannel : call.channel? = some channel) (hbrings : call.delivered = .ok (.inr message))
    (hconfig : w.channels.usable? (some channel) = some config)
    (hid : message.entry.field? "id" = some (.text id)) (hold : id ∈ w.handled) :
    call.answer.run w = (.ok [("status", .text "duplicate")], w) := by
  obtain ⟨hroute, hmethod⟩ := channel?_some hchannel
  have hnoted : noteHandled? w.handled (.text id) = some (false, w.handled) := by
    simp [noteHandled?, columnText?, hold]
  have hroutes : (Route.webhook channel).answer call = receiveDelivery channel call := by
    simp only [Route.answer, hmethod]
  rw [run_answer, hroute]
  dsimp only
  rw [hroutes, Work.exec_receiveDelivery, hbrings]
  simp only [Work.proceed_ok, Sum.elim_inr, Work.handleOnce, Work.noteHandled, Work.exec_bind,
    Work.exec_get, hconfig, hid, Work.exec_need, Option.elim_some, hnoted, Work.exec_modify]
  rfl

end WebCall

/-! ## The ids of handled messages -/

/-- The engine leaves the ids of handled messages alone. -/
theorem Invocation.handled_perform (call : Invocation) (w : World) :
    (call.perform.exec w).2.handled = w.handled := by
  have hmakes := call.makes w
  generalize call.perform.exec w = result at hmakes
  cases hmakes with
  | nothing | note => rfl
  | failure leg w' failure hplan hl | walk leg w' patch hplan hl =>
    cases hl <;> rfl

/-- What can happen to the service next: it answers a request, or anything but the ids of handled
messages changes. That the engine is invoked by a wake-up call is such a change. -/
inductive Visit where
  | request (call : WebCall)
  | change (world : World)

namespace World

/-- What the engine is handed by a visit, if it is. -/
def handedBy? (w : World) : Visit → Option Handover
  | .request call => w.handedOver? call
  | .change _ => none

/-- The world after a visit. -/
def visited (w : World) : Visit → World
  | .request call => (call.answer.run w).2
  | .change world => { world with handled := w.handled }

/-- What the engine is handed by visits, one after the other. -/
def handovers : World → List Visit → List Handover
  | _, [] => []
  | w, visit :: rest => (w.handedBy? visit).toList ++ (w.visited visit).handovers rest

variable {w : World} {visit : Visit}

/-- The ids of handled messages after a visit are those before it, with that of the message that the
engine was handed. -/
theorem handled_visited (w : World) (visit : Visit) :
    ∃ more, (w.visited visit).handled = w.handled ++ more ∧
      ∀ handover, w.handedBy? visit = some handover →
        handover.id ∉ w.handled ∧ handover.id ∈ more := by
  cases visit with
  | change world => exact ⟨[], (List.append_nil _).symm, fun _ h => nomatch h⟩
  | request call =>
    have hanswered := call.answered w
    simp only [visited, handedBy?]
    generalize call.answer.run w = result at hanswered
    cases hanswered with
    | idle reply hnone | publish reply flows hnone =>
      exact ⟨[], (List.append_nil _).symm, fun _ h => nomatch hnone.symm.trans h⟩
    | failed reply id outside hnone =>
      exact ⟨[id], rfl, fun _ h => nomatch hnone.symm.trans h⟩
    | handed reply handover outside hover hnew hworld =>
      refine ⟨[handover.id], ?_, fun other h => ?_⟩
      · rw [Invocation.handled_perform, hworld]
        rfl
      · cases hover.symm.trans h
        exact ⟨hnew, List.mem_singleton_self _⟩

/-- No id of a message that the engine is handed was noted before. -/
theorem not_mem_handled_of_mem_handovers {visits : List Visit} {handover : Handover}
    (h : handover ∈ w.handovers visits) : handover.id ∉ w.handled := by
  induction visits generalizing w with
  | nil => cases h
  | cons visit rest ih =>
    obtain ⟨more, hmore, hnew⟩ := w.handled_visited visit
    rcases List.mem_append.1 h with hfirst | hlater
    · exact (hnew handover (Option.mem_toList.1 hfirst)).1
    · intro hold
      exact ih hlater (hmore ▸ List.mem_append_left more hold)

/-- The engine is handed no two messages under one id. -/
theorem nodup_handovers (w : World) (visits : List Visit) :
    ((w.handovers visits).map (·.id)).Nodup := by
  induction visits generalizing w with
  | nil => exact List.nodup_nil
  | cons visit rest ih =>
    obtain ⟨more, hmore, hnew⟩ := w.handled_visited visit
    rw [handovers, List.map_append, List.nodup_append]
    refine ⟨?_, ih _, ?_⟩
    · cases w.handedBy? visit <;> simp
    · rintro id hfirst other hlater rfl
      obtain ⟨handover, hmem, rfl⟩ := List.mem_map.1 hfirst
      obtain ⟨later, hlater, hid⟩ := List.mem_map.1 hlater
      have hnoted : handover.id ∈ (w.visited visit).handled :=
        hmore ▸ List.mem_append_right _ (hnew handover (Option.mem_toList.1 hmem)).2
      exact not_mem_handled_of_mem_handovers hlater (hid ▸ hnoted)

end World

/-- Whether a message has a text for its id. -/
def Delivered.isNamed (id : String) (message : Delivered) : Bool :=
  match message.entry.field? "id" with
  | some (.text s) => s == id
  | _ => false

namespace World

variable {w : World} {message : Delivered} {id : String}

/-- A message is noted under its id. -/
theorem admitted?_isNamed {channel noted : String} {config : Channel}
    (h : w.admitted? channel message = some (config, noted)) (hid : message.isNamed id = true) :
    noted = id := by
  unfold Delivered.isNamed at hid
  split at hid
  · next s hfield =>
    simp only [admitted?, hfield, columnText?, Option.bind_eq_bind, Option.bind_some,
      Option.bind_eq_some_iff] at h
    obtain ⟨found, -, h⟩ := h
    split at h
    · cases h
    · cases h
      exact eq_of_beq hid
  · cases hid

theorem handedBy?_isNamed {visit : Visit} {handover : Handover}
    (h : w.handedBy? visit = some handover) (hid : handover.message.isNamed id = true) :
    handover.id = id := by
  cases visit with
  | change => cases h
  | request call =>
    simp only [handedBy?, handedOver?] at h
    split at h
    · next channel message _ _ =>
      unfold handOver? at h
      split at h
      · cases h
      · next config noted hadmitted =>
        split at h
        · cases h
          exact admitted?_isNamed hadmitted hid
        · cases h
    · cases h

theorem isNamed_of_mem_handovers {visits : List Visit} {handover : Handover}
    (h : handover ∈ w.handovers visits) (hid : handover.message.isNamed id = true) :
    handover.id = id := by
  induction visits generalizing w with
  | nil => cases h
  | cons visit rest ih =>
    rcases List.mem_append.1 h with hfirst | hlater
    · exact handedBy?_isNamed (Option.mem_toList.1 hfirst) hid
    · exact ih hlater

/-- **The engine is handed a message at most once**, in whatever order requests come and whatever
fails; and a reply that turns a delivery away means that nothing has changed and nothing was sent.
-/
theorem handed_over_once (w : World) :
    (∀ visits id, (w.handovers visits).countP (·.message.isNamed id) ≤ 1) ∧
      ∀ call : WebCall, (call.answer.run w).1.TurnsAway → (call.answer.run w).2 = w := by
  refine ⟨fun visits id => ?_, fun call => WebCall.eq_of_turnsAway⟩
  calc (w.handovers visits).countP (·.message.isNamed id)
      ≤ (w.handovers visits).countP ((· == id) ∘ (·.id)) :=
        List.countP_mono_left fun handover hmem hid =>
          beq_iff_eq.2 (isNamed_of_mem_handovers hmem hid)
    _ = ((w.handovers visits).map (·.id)).count id := List.countP_map.symm
    _ ≤ 1 := List.nodup_iff_count_le_one.1 (w.nodup_handovers visits) id

/-- A world with a channel, in which a message was handled. -/
def reached : World :=
  { World.offering ⟨"f", some "c", .anyMessage, 0, true, true⟩ ⟨[], []⟩ with
    channels := [⟨"c", none, some "100", none, some "token", none, true⟩]
    handled := ["m"] }

/-- A delivery of this message. -/
def redelivery : WebCall where
  method := "POST"
  path := "/webhook/c"
  parameters := []
  body :=
    "\x7b\"object\":\"whatsapp_business_account\"," ++
    "\"entry\":[\x7b\"changes\":[\x7b\"value\":" ++
    "\x7b\"messages\":[\x7b\"from\":\"x\",\"id\":\"m\"\x7d]\x7d\x7d]\x7d]\x7d"

/-- The message is not handed over again. -/
theorem handed_over_once_redelivered :
    (redelivery.answer.run reached).1 = .ok [("status", .text "duplicate")] ∧
      (redelivery.answer.run reached).2 = reached := by
  have hchannel : redelivery.channel? = some "c" := by cbv
  have hbrings : redelivery.delivered =
      .ok (.inr ⟨[("from", .text "x"), ("id", .text "m")], .text "x", .object []⟩) := by cbv
  have hreply : redelivery.answer.run reached = (.ok [("status", .text "duplicate")], reached) :=
    WebCall.run_answer_of_noted hchannel hbrings rfl rfl (List.mem_singleton_self "m")
  have haway : (redelivery.answer.run reached).1.TurnsAway := by
    rw [hreply]
    exact .inr (.inr (.inr rfl))
  refine ⟨congrArg Prod.fst hreply, (handed_over_once reached).2 redelivery haway⟩

end World

end ChatFlow

import ChatFlow.Proofs.Engine.Parking
import ChatFlow.Proofs.Engine.Replies
import ChatFlow.Proofs.Value.Paths

/-!
# Messages during a timer

While an execution waits for a timer, the messages of its customer are noted: each updates the
variables with what it tells and leaves one entry in the log, and nothing else comes of it.
`Execution.noted` is the execution to which messages were noted, in the order in which they came.

Main statement: `World.notes_accumulate`, whatever else happens, an execution in its park is what it
was with all messages noted that came since, and when its timer is due it goes on with these
variables.
-/

namespace ChatFlow

/-! ## Updates -/

/-- A message sets each of its variables once. -/
theorem InboundMessage.nodup_observed (message : InboundMessage) :
    (message.observed.map (·.1)).Nodup := by
  refine List.Nodup.sublist (List.filter_sublist.map _) ?_
  simp

/-- Variables that were updated with messages have the values of the last messages that tell them,
and else the old ones. -/
theorem Object.field?_foldl_observed (vars : Object) (messages : List InboundMessage)
    (name : String) :
    (messages.foldl (fun vars message => vars.update message.observed) vars).field? name =
      (messages.reverse.findSome? (·.observed.field? name)).or (vars.field? name) := by
  induction messages generalizing vars with
  | nil => rfl
  | cons message rest ih =>
    rw [List.foldl_cons, ih, field?_update message.nodup_observed, List.reverse_cons,
      List.findSome?_append, Option.or_assoc]
    cases hvalue : message.observed.field? name <;> simp [hvalue]

/-! ## Noted messages -/

namespace Execution

/-- An execution to which messages were noted. -/
def noted (row : Execution) (messages : List InboundMessage) : Execution :=
  { row with
    vars := messages.foldl (fun vars message => vars.update message.observed) row.vars
    version := row.version + messages.length }

/-- The entry of a message that was noted. -/
def notedEntry (row : Execution) (message : InboundMessage) : LogEntry :=
  ⟨row.currentNode, some "delay", .object [("ignored_message", message.text)]⟩

variable {row : Execution} {due : Moment}

theorem noted_append (row : Execution) (messages later : List InboundMessage) :
    (row.noted messages).noted later = row.noted (messages ++ later) := by
  simp only [noted, List.foldl_append, List.length_append, Nat.add_assoc]

/-- An execution to which messages were noted is in its park. -/
theorem Parked.noted (h : row.Parked due) (messages : List InboundMessage) :
    (row.noted messages).Parked due :=
  ⟨h.status, h.waitingFor, h.resumeAt⟩

theorem Parked.isActiveOf (h : row.Parked due) :
    Executions.isActiveOf row.customerId row.channelId row = true := by
  simp [Executions.isActiveOf, h.status, ExecutionStatus.isActive]

end Execution

/-! ## The execution that is found -/

/-- An element that is found is found after a change of the list, if no other is found before it. -/
theorem find?_map_of_find? {α : Type} {p : α → Bool} {f : α → α} {l : List α} {a : α}
    (h : l.find? p = some a) (hf : ∀ b ∈ l, p (f b) = true → p b = true) (ha : p (f a) = true) :
    (l.map f).find? p = some (f a) := by
  induction l with
  | nil => cases h
  | cons b rest ih =>
    rw [List.find?_cons] at h
    rw [List.map_cons, List.find?_cons]
    split at h
    · cases h
      rw [ha]
    · next hb =>
      have hfb : p (f b) = false := by
        rw [← Bool.not_eq_true]
        intro hfound
        rw [hf b List.mem_cons_self hfound] at hb
        cases hb
      rw [hfb]
      exact ih h fun c hc => hf c (List.mem_cons_of_mem b hc)

namespace Executions

variable {store : Executions} {row : Execution} {customer : String} {channel : Option String}

/-- In an exclusive store the active execution of a customer on a channel is found, and without a
channel the latest one. -/
theorem Exclusive.findActive?_of_mem (hx : store.Exclusive) (hrow : row ∈ store.rows)
    (ha : isActiveOf row.customerId row.channelId row = true)
    (hlatest : row.channelId = none → store.findActive? row.customerId none = some row) :
    store.findActive? row.customerId row.channelId = some row := by
  cases hchannel : row.channelId with
  | none => exact hlatest hchannel
  | some channel =>
    rw [hchannel] at ha
    exact hx.findActive?_eq hrow ha

/-- When an active execution is written, the active execution of a customer on a channel is still
found, as it is then. -/
theorem Sound.findActive?_written (hs : store.Sound) {held : Execution}
    (hheld : held ∈ store.rows) (ha : held.status.isActive = true)
    (hfound : store.findActive? customer channel = some row) (patch : Patch)
    (entries : List LogEntry)
    (hstays : row.id = held.id → (patch.apply row).status.isActive = true) :
    (store.written held patch entries).findActive? customer channel =
      some (if isHeld held row then patch.apply row else row) := by
  have hrow : row ∈ store.rows := (findActive?_some hfound).1
  show (store.rewrite held patch).reverse.find? _ = _
  rw [rewrite, ← List.map_reverse]
  refine find?_map_of_find? hfound (fun other hother hp => ?_) ?_
  · split at hp
    · next hsame =>
      obtain rfl := hs.eq_of_id (List.mem_reverse.1 hother) hheld (isHeld_iff.1 hsame).1
      simp only [isActiveOf, Bool.and_eq_true] at hp ⊢
      exact ⟨hp.1, ha⟩
    · exact hp
  · have hp : isActiveOf customer channel row = true := List.find?_some hfound
    split
    · next hsame =>
      simp only [isActiveOf, Bool.and_eq_true] at hp ⊢
      exact ⟨hp.1, hstays (isHeld_iff.1 hsame).1⟩
    · exact hp

/-- When another active execution is written, the same active execution is found. -/
theorem Sound.findActive?_written_of_ne (hs : store.Sound) {held : Execution}
    (hheld : held ∈ store.rows) (ha : held.status.isActive = true)
    (hfound : store.findActive? customer channel = some row) (hid : row.id ≠ held.id)
    (patch : Patch) (entries : List LogEntry) :
    (store.written held patch entries).findActive? customer channel = some row := by
  rw [hs.findActive?_written hheld ha hfound patch entries fun hsame => absurd hsame hid,
    if_neg fun hsame => hid (isHeld_iff.1 hsame).1]

end Executions

/-! ## Events during a park -/

/-- The message of an event, if it is one of an execution's customer on its channel. -/
def Event.message? (row : Execution) : Event → Option InboundMessage
  | .invoke (.inbound channel customer message _) =>
    if customer = row.customerId ∧ channel.id = row.channelId then some message else none
  | _ => none

/-- Whether an event leaves an execution in its park: it does not go on with it, and no flow is
started for its customer by other means than a message. -/
structure Event.Spares (row : Execution) (w : World) (event : Event) : Prop where
  walk : ∀ leg w', w.walk? event = some (leg, w') → leg.held.id ≠ row.id
  start : ∀ flow channel message initial,
    event = .invoke (.start flow channel row.customerId message initial) →
      channel.id ≠ row.channelId

/-- Nothing is dispatched for an execution that is spared. -/
theorem Event.Spares.dispatched_eq_nil {row : Execution} {w : World} {event : Event}
    (h : event.Spares row w) : w.dispatched row.id event = [] := by
  unfold World.dispatched
  split
  · next leg w' hwalk => exact if_neg (h.walk leg w' hwalk)
  · rfl

/-- Whether the messages of an execution's customer on its channel go to the execution. -/
structure Execution.IsReached (row : Execution) (w : World) : Prop where
  sound : w.executions.Sound
  found : w.executions.findActive? row.customerId row.channelId = some row

/-- An execution is still found when a walk sets out, unless a flow was started for its customer. -/
theorem SetsOut.findActive?_eq {w w' : World} {call : Invocation} {leg : Leg} {row : Execution}
    (h : SetsOut w call leg w')
    (hfound : w.executions.findActive? row.customerId row.channelId = some row)
    (hstarts : ∀ flow channel message initial,
      call.Starts w flow channel row.customerId message initial → channel.id ≠ row.channelId) :
    w'.executions.findActive? row.customerId row.channelId = some row := by
  cases h with
  | reply | stranded | restart | timer => exact hfound
  | @departure departure flow channel customer message initial hc hg ht ha hnew =>
    show (w.executions.rows ++ [departure.held]).reverse.find? _ = _
    rw [List.reverse_append, List.reverse_singleton, List.singleton_append,
      List.find?_cons_of_neg, ← Executions.findActive?, hfound]
    rw [hnew]
    simp only [Executions.isActiveOf, Executions.newRow, Bool.and_eq_true, beq_iff_eq]
    rintro ⟨⟨rfl, hch⟩, -⟩
    exact hstarts flow channel message initial hc hch

theorem SetsOut.logOf_eq {w w' : World} {call : Invocation} {leg : Leg}
    (h : SetsOut w call leg w') : w'.executions.logOf = w.executions.logOf := by
  cases h <;> rfl

/-- A walk of which nothing is written yet has added nothing to the logs of other executions. -/
theorem Leg.logOf_walked {leg : Leg} {w : World} {id : String} (hid : id ≠ leg.held.id) :
    (leg.walked w).executions.logOf id = w.executions.logOf id := by
  unfold walked Walk.logged
  split
  · rw [Executions.logOf_appendLog, if_neg hid, List.append_nil]
  · rfl
  · rfl

/-- A walk of which nothing is written yet has changed nothing of which execution is active. -/
theorem Leg.findActive?_walked (leg : Leg) (w : World) (customer : String)
    (channel : Option String) :
    (leg.walked w).executions.findActive? customer channel =
      w.executions.findActive? customer channel := by
  rw [Executions.findActive?, (leg.keeps_walked w).rows, ← Executions.findActive?]

namespace Execution.IsReached

variable {w : World} {row : Execution} {due : Moment} {event : Event}

/-- **A message is noted.** -/
theorem perform_message (h : row.IsReached w) (hp : row.Parked due) {message : InboundMessage}
    (hm : event.message? row = some message) :
    ∃ call, event = .invoke call ∧ w.walk? event = none ∧
      call.perform.exec w = (.ok ⟨.ignored, some row.id, some .waiting⟩,
        w.withWritten row { vars := some (row.after message) } [row.notedEntry message]) := by
  cases event with
  | change world => cases hm
  | invoke call =>
  cases call with
  | start | timer => cases hm
  | inbound channel customer brought initial =>
    by_cases hown : customer = row.customerId ∧ channel.id = row.channelId
    · rw [Event.message?, if_pos hown] at hm
      obtain rfl := Option.some.inj hm
      obtain ⟨rfl, hch⟩ := hown
      have hplan := World.plan_note channel brought initial (hch ▸ h.found) hp.waitsForTimer
      refine ⟨_, rfl, by rw [World.walk?, hplan]; rfl, ?_⟩
      rw [Invocation.perform_eq_plan, hplan,
        Plan.exec_note brought (Executions.findActive?_some h.found).1, hp.status]
      rfl
    · rw [Event.message?, if_neg hown] at hm
      cases hm

/-- After a message was noted, the messages go to the execution as it is then. -/
theorem withWritten (h : row.IsReached w) (hp : row.Parked due) (message : InboundMessage) :
    (row.noted [message]).IsReached
      (w.withWritten row { vars := some (row.after message) } [row.notedEntry message]) := by
  refine ⟨h.sound.written row _ _, ?_⟩
  have hfound := h.sound.findActive?_written (Executions.findActive?_some h.found).1
    (congrArg ExecutionStatus.isActive hp.status) h.found { vars := some (row.after message) }
    [row.notedEntry message] fun _ => congrArg ExecutionStatus.isActive hp.status
  rw [if_pos (Executions.isHeld_iff.2 ⟨rfl, rfl⟩)] at hfound
  exact hfound

/-- **Any other event that spares an execution leaves it as it is**, and its log. -/
theorem next_of_spares (h : row.IsReached w) (hm : event.message? row = none)
    (hspares : event.Spares row w) :
    row.IsReached (w.next event) ∧
      (w.next event).executions.logOf row.id = w.executions.logOf row.id := by
  cases event with
  | change world => exact ⟨⟨h.sound, h.found⟩, rfl⟩
  | invoke call =>
  have hstarts : ∀ flow channel message initial,
      call.Starts w flow channel row.customerId message initial → channel.id ≠ row.channelId := by
    intro flow channel message initial hc hch
    cases hc with
    | start => exact hspares.start _ _ _ _ rfl hch
    | inbound =>
      rw [Event.message?, if_pos ⟨rfl, hch⟩] at hm
      cases hm
  have hrow : row ∈ w.executions.rows := (Executions.findActive?_some h.found).1
  have hsound := World.sound_next h.sound (.invoke call)
  have hmakes := call.makes w
  rw [World.next] at hsound ⊢
  generalize call.perform.exec w = made at hmakes hsound
  cases hmakes with
  | nothing => exact ⟨⟨hsound, h.found⟩, rfl⟩
  | note held message attempts ha hheld hb hw =>
    have hid : row.id ≠ held.id := by
      intro hid
      obtain rfl := h.sound.eq_of_id hrow hheld hid
      cases call with
      | timer => exact hb
      | start => exact hspares.start _ _ _ _ (by rw [hb.2.1]) hb.2.2.symm
      | inbound =>
        rw [Event.message?, if_pos ⟨hb.2.1.symm, hb.2.2.symm⟩] at hm
        cases hm
    have hsound' : (w.withAttempts attempts).executions.Sound := h.sound.keeps ⟨rfl, ha⟩
    exact ⟨⟨hsound, hsound'.findActive?_written_of_ne hheld
        (congrArg ExecutionStatus.isActive (Execution.waitsForTimer_iff.1 hw).1) h.found hid _ _⟩,
      by rw [World.withWritten, Executions.logOf_written, if_neg hid, List.append_nil]; rfl⟩
  | failure leg w' failure hplan hl hpatch =>
    have hid := (hspares.walk leg w' (World.walk?_of_plan hplan)).symm
    refine ⟨⟨hsound, ?_⟩, by rw [Leg.logOf_walked hid, hl.logOf_eq]⟩
    rw [Leg.findActive?_walked]
    exact hl.findActive?_eq h.found hstarts
  | walk leg w' patch hplan hl hpatch =>
    have hid := (hspares.walk leg w' (World.walk?_of_plan hplan)).symm
    have hactive : leg.held.status.isActive = true := by
      rcases hl.active_or_new with ⟨-, hactive⟩ | ⟨trigger, -, -, hrunning⟩
      · exact hactive
      · exact congrArg ExecutionStatus.isActive hrunning
    refine ⟨⟨hsound, (hl.sound_walked h.sound).findActive?_written_of_ne hl.held_mem_walked hactive
      ?_ hid _ _⟩, ?_⟩
    · rw [Leg.findActive?_walked]
      exact hl.findActive?_eq h.found hstarts
    · rw [World.withWritten, Executions.logOf_written, if_neg hid, List.append_nil,
        Leg.logOf_walked hid, hl.logOf_eq]

/-- **All that a run leaves of an execution in its park**, to which messages may have been noted
before. -/
theorem play (before : List InboundMessage) {events : List Event}
    (h : (row.noted before).IsReached w) (hp : row.Parked due)
    (hspares : w.Throughout (fun now event => event.Spares row now) events) :
    (row.noted (before ++ events.filterMap (·.message? row))).IsReached (w.play events) ∧
      (w.play events).executions.logOf row.id =
        w.executions.logOf row.id ++ (events.filterMap (·.message? row)).map row.notedEntry ∧
      w.Throughout (fun now event => now.dispatched row.id event = [] ∧
        ∀ call message, event = .invoke call → event.message? row = some message →
          now.walk? event = none ∧
          (call.perform.exec now).1 = .ok ⟨.ignored, some row.id, some .waiting⟩) events := by
  induction events generalizing w before with
  | nil =>
    rw [List.filterMap_nil, List.append_nil, List.map_nil, List.append_nil]
    exact ⟨h, rfl, trivial⟩
  | cons event rest ih =>
    have hspared : event.Spares (row.noted before) w := ⟨hspares.1.walk, hspares.1.start⟩
    have hidle := hspares.1.dispatched_eq_nil
    cases hm : event.message? row with
    | none =>
      obtain ⟨hnext, hlog⟩ := h.next_of_spares hm hspared
      obtain ⟨hreached, hlogs, hthroughout⟩ := ih before hnext hspares.2
      rw [List.filterMap_cons_none hm]
      refine ⟨hreached, hlogs.trans (congrArg (· ++ _) hlog), ⟨hidle, ?_⟩, hthroughout⟩
      intro call message _ hsome
      rw [hm] at hsome
      cases hsome
    | some message =>
      obtain ⟨call, rfl, hwalk, hexec⟩ := h.perform_message (hp.noted before) hm
      have hwritten := h.withWritten (hp.noted before) message
      have hnext : w.next (.invoke call) = w.withWritten (row.noted before)
          { vars := some ((row.noted before).after message) } [row.notedEntry message] :=
        congrArg Prod.snd hexec
      have hlog : (w.next (.invoke call)).executions.logOf row.id =
          w.executions.logOf row.id ++ [row.notedEntry message] := by
        rw [hnext, World.withWritten, Executions.logOf_written]
        exact congrArg _ (if_pos rfl)
      rw [noted_append] at hwritten
      have hreached : (row.noted (before ++ [message])).IsReached (w.next (.invoke call)) :=
        hnext ▸ hwritten
      obtain ⟨hlast, hlogs, hthroughout⟩ := ih (before ++ [message]) hreached hspares.2
      rw [List.filterMap_cons_some hm, List.append_cons]
      refine ⟨hlast, ?_, ⟨hidle, ?_⟩, hthroughout⟩
      · show ((w.next (.invoke call)).play rest).executions.logOf row.id = _
        rw [hlogs, hlog, List.append_assoc]
        rfl
      · intro call' message' hcall _
        cases hcall
        exact ⟨hwalk, congrArg Prod.fst hexec⟩

end Execution.IsReached

/-! ## The timer -/

/-- Whether a walk is the one on which an execution leaves its park: from the edge out of the node
where it stands, with its variables. -/
structure Leg.LeavesPark (leg : Leg) (row : Execution) : Prop where
  held : leg.held = row
  env : leg.env = .ofVariables row.vars
  next : leg.next = (row.currentNode.bind (leg.graph.nextEdge? · none)).map (·.target)

/-- An execution that waits for a timer sets out on no other walk. -/
theorem SetsOut.leavesPark {w w' : World} {call : Invocation} {leg : Leg}
    (h : SetsOut w call leg w') (hw : leg.held.waitsForTimer = true) :
    leg.LeavesPark leg.held := by
  obtain ⟨hstatus, hreason⟩ := Execution.waitsForTimer_iff.1 hw
  cases h with
  | reply credentials attempts ha hheld hb hs ht => exact absurd hreason ht
  | stranded credentials attempts ha hheld hb hs ht => exact absurd hreason ht
  | restart credentials attempts ha hheld hb hs =>
    exact absurd (hs.symm.trans hstatus) ExecutionStatus.noConfusion
  | departure hc hg ht ha hnew =>
    rw [show (Leg.ofDeparture _ _ _).held = _ from hnew] at hstatus
    cases hstatus
  | timer => exact ⟨rfl, rfl, rfl⟩

namespace World

variable {w : World} {row : Execution} {due : Moment}

/-- A call for the present version of a parked execution is honoured once its moment has come. -/
theorem walk?_timer (hget : w.executions.get? row.id = some row) (hp : row.Parked due)
    {graph : FlowGraph} (hg : w.flows.load? row.flowId = some graph) {version : Option Int}
    (hv : ∀ n, version = some n → n = row.version)
    (hdue : due.micros ≤ w.outside.clock.now.micros) :
    w.walk? (.invoke (.timer row.id version)) =
      some (.ofTimer graph row (w.channels.credentials row.channelId), w) := by
  have hversion : version.any (· != (row.version : Int)) = false := by
    cases version with
    | none => rfl
    | some n => simp [hv n rfl]
  have hlate : Work.tooEarly w.outside.clock.now row.resumeAt = false := by
    rw [← Bool.not_eq_true, hp.tooEarly_iff]
    omega
  refine walk?_of_plan ?_
  rw [Invocation.plan, planTimer, hget]
  simp only [hp.waitsForTimer, hversion, hlate, Plan.inFlow, hg]
  rfl

/-- **Messages during a timer accumulate and do nothing else.** Let the messages of an execution's
customer on its channel go to the execution, which is parked until a moment, and let anything happen
before its timer is honoured: messages of its customer, and whatever does not start a flow for the
customer.

Each of the messages is answered as ignored and sets out on no walk; nothing is dispatched for the
execution. In the end it is the execution with the messages noted: its variables are updated with
what the messages tell, in the order in which they came, its version has grown by their number, and
nothing else of it has changed. A variable has the value of the last message that tells it, and the
old one if none does. The log has one entry more for each message.

A timer that is honoured then goes on by the edge out of the node where the execution stands, with
exactly these variables, and nothing else goes on with the execution. -/
theorem notes_accumulate {events : List Event} (hs : w.executions.Sound)
    (hx : w.executions.Exclusive) (hrow : row ∈ w.executions.rows) (hp : row.Parked due)
    (hlatest : row.channelId = none → w.executions.findActive? row.customerId none = some row)
    (hspares : w.Throughout (fun now event => event.Spares row now) events) :
    let messages := events.filterMap (·.message? row)
    let after := row.noted messages
    (w.play events).executions.get? row.id = some after ∧
    (∀ name, after.vars.field? name =
      (messages.reverse.findSome? (·.observed.field? name)).or (row.vars.field? name)) ∧
    (w.play events).executions.logOf row.id =
      w.executions.logOf row.id ++ messages.map row.notedEntry ∧
    w.Throughout (fun now event => now.dispatched row.id event = [] ∧
      ∀ call message, event = .invoke call → event.message? row = some message →
        now.walk? event = none ∧
        (call.perform.exec now).1 = .ok ⟨.ignored, some row.id, some .waiting⟩) events ∧
    (∀ graph version, (w.play events).flows.load? row.flowId = some graph →
      (∀ n, version = some n → n = (after.version : Int)) →
      due.micros ≤ (w.play events).outside.clock.now.micros →
      ∃ leg, (w.play events).walk? (.invoke (.timer row.id version)) =
        some (leg, w.play events) ∧ leg.graph = graph ∧ leg.LeavesPark after) ∧
    (∀ event leg w', (w.play events).walk? event = some (leg, w') → leg.held.id = row.id →
      event.Fires after ∧ leg.LeavesPark after) := by
  intro messages after
  have hreached : (row.noted []).IsReached w :=
    ⟨hs, hx.findActive?_of_mem hrow hp.isActiveOf hlatest⟩
  obtain ⟨hafter, hlog, hthroughout⟩ := Execution.IsReached.play [] hreached hp hspares
  rw [List.nil_append] at hafter
  have hmem : after ∈ (w.play events).executions.rows :=
    (Executions.findActive?_some hafter.found).1
  have hget : (w.play events).executions.get? after.id = some after :=
    hafter.sound.get?_eq_some_iff.2 ⟨hmem, rfl⟩
  refine ⟨hget, Object.field?_foldl_observed row.vars messages, hlog, hthroughout, ?_, ?_⟩
  · intro graph version hg hv hdue
    exact ⟨_, walk?_timer hget (hp.noted messages) hg hv hdue, rfl, rfl, rfl, rfl⟩
  · intro event leg w' hwalk hid
    have hheld : leg.held = after := held_eq_of_walk? hafter.sound hmem hwalk hid
    have hw : leg.held.waitsForTimer = true := hheld ▸ (hp.noted messages).waitsForTimer
    obtain ⟨call, -, -, hl⟩ := walk?_some hwalk
    rw [← hheld]
    exact ⟨(walk?_of_waitsForTimer hwalk hw).1, hl.leavesPark hw⟩

/-- A world in which an execution is at a delay, after which its flow ends. -/
def drowsing : World :=
  { World.offering ⟨"f", some "c", .anyMessage, 0, true, true⟩
      ⟨[⟨"t", "trigger", .null⟩, ⟨"d", "delay", .null⟩, ⟨"e", "end", .null⟩],
        [⟨"t", "d", none, 0⟩, ⟨"d", "e", none, 1⟩]⟩ with
    executions := ⟨[dozer], [], 1⟩ }

/-- A text, a call that comes too early, a button, and the end of the delay. -/
def murmurs : List Event :=
  let sender : ChannelAccess := ⟨some "c", ⟨none, none⟩⟩
  [.invoke (.inbound sender "x" ⟨.text "text", .text "hi", .null, .null, .null, .text "1"⟩ []),
   .invoke (.timer (Executions.idOf 1) none),
   .invoke (.inbound sender "x" ⟨.text "button", .null, .text "b", .null, .null, .null⟩ []),
   .change { drowsing with outside := { drowsing.outside with clock := ⟨⟨5⟩, none⟩ } }]

theorem murmurs_spare :
    drowsing.Throughout (fun now event => event.Spares dozer now) murmurs := by
  have hspares : ∀ {w : World} {event : Event}, w.walk? event = none →
      (∀ flow channel message initial,
        event ≠ .invoke (.start flow channel dozer.customerId message initial)) →
      event.Spares dozer w := by
    intro w event hwalk hstart
    refine ⟨fun leg w' hleg => ?_, fun flow channel message initial hevent => ?_⟩
    · rw [hwalk] at hleg
      cases hleg
    · exact absurd hevent (hstart flow channel message initial)
  exact ⟨hspares rfl nofun, hspares rfl nofun, hspares rfl nofun, hspares rfl nofun, trivial⟩

/-- The messages are noted, and the timer goes on with what they told. -/
theorem notes_accumulate_drowsing :
    (drowsing.play murmurs).executions.get? dozer.id = some { dozer with
      vars := [("last_message", .text "hi"), ("last_message_type", .text "button"),
        ("message_timestamp", .text "1"), ("last_button_id", .text "b")]
      version := 4 } ∧
    ∃ leg, (drowsing.play murmurs).walk? (.invoke (.timer dozer.id (some 4))) =
      some (leg, drowsing.play murmurs) ∧ leg.next = some "e" := by
  have hsound : drowsing.executions.Sound := by
    refine ⟨List.nodup_singleton _, fun row hrow n hn hid => ?_⟩
    rw [List.mem_singleton.1 hrow] at hid
    exact Nat.ne_of_lt hn (Executions.idOf_injective hid)
  have hexclusive : drowsing.executions.Exclusive :=
    fun customer channel => List.countP_le_length
  have hparked : dozer.Parked ⟨5⟩ := ⟨rfl, rfl, rfl⟩
  obtain ⟨hget, -, -, -, htimer, -⟩ := notes_accumulate hsound hexclusive
    (List.mem_singleton_self dozer) hparked (fun hnone => absurd hnone (Option.some_ne_none _))
    murmurs_spare
  refine ⟨hget, ?_⟩
  have hgraph : (drowsing.play murmurs).flows.load? dozer.flowId = drowsing.flows.load? "f" := rfl
  obtain ⟨leg, hwalk, hleg, hleaves⟩ := htimer
    ⟨[⟨"t", "trigger", .null⟩, ⟨"d", "delay", .null⟩, ⟨"e", "end", .null⟩],
      [⟨"t", "d", none, 0⟩, ⟨"d", "e", none, 1⟩]⟩ (some 4) (hgraph.trans (by cbv))
    (fun n hn => (Option.some.inj hn).symm) (Int.le_refl 5)
  refine ⟨leg, hwalk, ?_⟩
  rw [hleaves.next, hleg]
  rfl

end World

end ChatFlow

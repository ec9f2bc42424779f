import ChatFlow.Node.Dispatch
import ChatFlow.Proofs.Node.Answers

/-!
# The conduct of nodes

What the work of any node does and does not do. `Act.Ensures` says of work that it leaves the clock
alone, that it fails only for a reason that can arise in its scene (`Failure.Arises`), and what it
gives if it does not fail; it is closed under doing one thing after the other. Each kind of node has
a lemma of its own, and `NodeConfig.act_ensures` puts them together: it tells by the kind of node
where the walk goes from there (`NodeConfig.Leads`).

A node that leads on without branching is left without a handle, a delay waits for a moment, and no
node whose configuration was read fails for its configuration.
-/

namespace ChatFlow

/-! ## Failures -/

/-- Whether the other services will answer as they should. -/
structure Outside.IsUsual (outside : Outside) : Prop where
  provider : outside.provider.IsUsual
  web : outside.web.IsUsual

/-- The reasons for which nodes fail in a scene. -/
inductive Failure.Arises (scene : Scene) : Failure → Prop where
  | fault (fault : Fault) : Arises scene (.fault fault)
  | quotientTooLarge : Arises scene .quotientTooLarge
  | itemOutOfRange : Arises scene .itemOutOfRange
  | unwritable {error : CallError} (h : error.IsUnwritable) : Arises scene (.call error)
  /-- Another service does not answer as it should. -/
  | service {failure : Failure} (hf : failure.IsOfService) (h : ¬ scene.outside.IsUsual) :
      Arises scene failure

/-- Whether a scene can come of another by the work of nodes: the clock is the same, and answers
that are still to come are no worse. -/
structure Scene.Precedes (before after : Scene) : Prop where
  clock : after.outside.clock = before.outside.clock
  usual : before.outside.IsUsual → after.outside.IsUsual

theorem Scene.Precedes.refl (scene : Scene) : scene.Precedes scene :=
  ⟨rfl, id⟩

theorem Scene.Precedes.trans {a b c : Scene} (hab : a.Precedes b) (hbc : b.Precedes c) :
    a.Precedes c :=
  ⟨hbc.clock.trans hab.clock, fun ha => hbc.usual (hab.usual ha)⟩

/-- A reason that arises later could have arisen before. -/
theorem Failure.Arises.earlier {before after : Scene} {failure : Failure}
    (h : failure.Arises after) (hs : before.Precedes after) : failure.Arises before := by
  have hback : ¬ after.outside.IsUsual → ¬ before.outside.IsUsual := fun hno hb => hno (hs.usual hb)
  cases h with
  | fault fault => exact .fault fault
  | quotientTooLarge => exact .quotientTooLarge
  | itemOutOfRange => exact .itemOutOfRange
  | unwritable h => exact .unwritable h
  | service hf h => exact .service hf (hback h)

/-- No node fails for a configuration that was read. -/
theorem Failure.Arises.not_config {scene : Scene} {failure : Failure} (h : failure.Arises scene)
    (report : ConfigReport) : failure ≠ .config report := by
  rintro rfl
  cases h with
  | service hf h => exact hf

/-! ## Work on a scene -/

namespace Act

variable {α β : Type} {P : α → Prop} {Q : β → Prop}

/-- What can come of work on a scene: a result of a kind, or a reason that can arise. -/
inductive Ends (P : α → Prop) (scene : Scene) : Except Failure α × Scene → Prop where
  | gives (a : α) (after : Scene) (hs : scene.Precedes after) (ha : P a) :
      Ends P scene (.ok a, after)
  | fails (failure : Failure) (after : Scene) (hs : scene.Precedes after)
      (hf : failure.Arises scene) : Ends P scene (.error failure, after)

/-- What comes of work in a later scene can come of it in an earlier one. -/
theorem Ends.earlier {before after : Scene} {result : Except Failure α × Scene}
    (h : Ends P after result) (hs : before.Precedes after) : Ends P before result := by
  cases h with
  | gives a last hl ha => exact .gives a last (hs.trans hl) ha
  | fails failure last hl hf => exact .fails failure last (hs.trans hl) (hf.earlier hs)

/-- Whether work always ends in this way. -/
def Ensures (act : Act α) (P : α → Prop) : Prop :=
  ∀ scene, Ends P scene (act.run.run scene)

theorem ensures_pure {a : α} (h : P a) : (pure a : Act α).Ensures P :=
  fun scene => .gives a scene (.refl scene) h

/-- Work in a row goes on in the scene that the first part left, and not at all after a failure. -/
theorem run_bind (act : Act α) (next : α → Act β) (scene : Scene) :
    (act >>= next).run.run scene =
      match act.run.run scene with
      | (.ok a, after) => (next a).run.run after
      | (.error failure, after) => (.error failure, after) := by
  show (ExceptT.bindCont next (act.run.run scene).1).run (act.run.run scene).2 = _
  rcases act.run.run scene with ⟨_ | _, _⟩ <;> rfl

theorem run_vars (scene : Scene) : vars.run.run scene = (.ok scene.env.vars, scene) := rfl

theorem run_changeEnv (change : Env → Env) (scene : Scene) :
    (changeEnv change).run.run scene = (.ok (), { scene with env := change scene.env }) := rfl

theorem run_ofExcept (result : Except Failure α) (scene : Scene) :
    (MonadExcept.ofExcept result : Act α).run.run scene = (result, scene) := by
  cases result <;> rfl

theorem run_lift (result : Except Fault α) (scene : Scene) :
    (liftM result : Act α).run.run scene = (result.mapError .fault, scene) := by
  cases result <;> rfl

theorem run_liftFailure (result : Except Failure α) (scene : Scene) :
    (liftM result : Act α).run.run scene = (result, scene) := by
  cases result <;> rfl

/-- Work in a row keeps to the rules if all of it does. -/
theorem Ensures.bind {act : Act α} {next : α → Act β} (h : act.Ensures P)
    (hnext : ∀ a, P a → (next a).Ensures Q) : (act >>= next).Ensures Q := by
  intro scene
  have hfirst := h scene
  rw [run_bind]
  generalize act.run.run scene = first at hfirst
  cases hfirst with
  | fails failure after hs hf => exact .fails failure after hs hf
  | gives a after hs ha => exact (hnext a ha after).earlier hs

/-- What work gives can be told less precisely. -/
theorem Ensures.mono {act : Act α} {P' : α → Prop} (h : act.Ensures P) (hp : ∀ a, P a → P' a) :
    act.Ensures P' := by
  intro scene
  have hends := h scene
  generalize act.run.run scene = ended at hends
  cases hends with
  | fails failure after hs hf => exact .fails failure after hs hf
  | gives a after hs ha => exact .gives a after hs (hp a ha)

theorem ensures_ofExcept {result : Except Failure α}
    (h : ∀ failure, result = .error failure → ∀ scene, failure.Arises scene) :
    (MonadExcept.ofExcept result : Act α).Ensures fun a => result = .ok a := by
  intro scene
  cases result with
  | error failure => exact .fails failure scene (.refl scene) (h failure rfl scene)
  | ok a => exact .gives a scene (.refl scene) rfl

theorem ensures_lift (result : Except Fault α) :
    (liftM result : Act α).Ensures fun a => result = .ok a := by
  intro scene
  cases result with
  | error fault => exact .fails (.fault fault) scene (.refl scene) (.fault fault)
  | ok a => exact .gives a scene (.refl scene) rfl

theorem ensures_liftFailure {result : Except Failure α}
    (h : ∀ failure, result = .error failure → ∀ scene, failure.Arises scene) :
    (liftM result : Act α).Ensures fun a => result = .ok a := by
  intro scene
  cases result with
  | error failure => exact .fails failure scene (.refl scene) (h failure rfl scene)
  | ok a => exact .gives a scene (.refl scene) rfl

theorem ensures_vars : vars.Ensures fun _ => True :=
  fun scene => .gives scene.env.vars scene (.refl scene) trivial

theorem ensures_time : time.Ensures fun _ => True :=
  fun scene => .gives scene.outside.clock.seen scene (.refl scene) trivial

theorem ensures_changeEnv (change : Env → Env) : (changeEnv change).Ensures fun _ => True :=
  fun scene => .gives () { scene with env := change scene.env } ⟨rfl, id⟩ trivial

theorem ensures_recordMessage (entry : ChatEntry) :
    (recordMessage entry).Ensures fun _ => True :=
  fun scene => .gives () { scene with outside := { scene.outside with
    chats := scene.outside.chats.record entry } } ⟨rfl, fun h => ⟨h.provider, h.web⟩⟩ trivial

theorem ensures_pick : pick.Ensures fun _ => True :=
  fun scene => .gives (scene.outside.picks.headD 0) { scene with outside := { scene.outside with
    picks := scene.outside.picks.tail } } ⟨rfl, fun h => ⟨h.provider, h.web⟩⟩ trivial

/-- Assigning is leading on without branching. -/
theorem ensures_assign (path : String) (value : Value) :
    (assign path value).Ensures fun result => result.next = .leave none :=
  (ensures_changeEnv _).bind fun _ _ => ensures_pure rfl

theorem ensures_post (credentials : Credentials) (payload : Object) :
    (post credentials payload).Ensures fun _ => True := by
  intro scene
  have husual : scene.outside.IsUsual → Outside.IsUsual { scene.outside with
      provider := (postToProvider credentials payload scene.outside.provider).2 } :=
    fun h => ⟨postToProvider_usual h.provider credentials payload, h.web⟩
  show Ends _ scene ((MonadExcept.ofExcept
    (postToProvider credentials payload scene.outside.provider).1 : Act Delivery).run.run _)
  cases hp : (postToProvider credentials payload scene.outside.provider).1 with
  | ok delivery => exact .gives delivery _ ⟨rfl, husual⟩ trivial
  | error failure =>
    refine .fails failure _ ⟨rfl, husual⟩ ?_
    rcases postToProvider_error hp with ⟨error, herror, rfl⟩ | ⟨hf, hno⟩
    · exact .unwritable herror
    · exact .service hf fun h => hno h.provider

/-- A call fails in a way that is not contained only if the answers are not the usual ones. -/
theorem ensures_perform (call : RenderedCall) (timeout : Float) (scene : Scene) :
    Ends (fun result => ∀ error, result = .error error → error.kept? = none →
      ¬ scene.outside.IsUsual) scene ((perform call timeout).run.run scene) := by
  refine .gives (call.perform timeout scene.outside.web).1 _ ⟨rfl, fun h => ?_⟩
    fun error he hk h => ?_
  · exact ⟨h.provider, RenderedCall.perform_usual h.web call timeout⟩
  · exact RenderedCall.perform_fails he hk h.web

end Act

/-! ## Where a walk goes -/

/-- Where a walk goes from a node, by what the node does. -/
def NodeConfig.Leads : NodeConfig → Next → Prop
  | .waitForReply expected _, next => next = .wait expected none
  | .delay _, next => ∃ moment, next = .wait timerReason (some moment)
  | .finish _, next => next = .finish
  | .condition _ _, next | .loop _, next | .randomChoice _ _, next => ∃ handle, next = .leave handle
  | _, next => next = .leave none

/-- Whether a result leads on without branching. -/
def NodeResult.LeadsOn (result : NodeResult) : Prop := result.next = .leave none

open Act

variable (recipient : Recipient)

theorem sendMessage_ensures (template : OutboundMessage) :
    (sendMessage recipient template).Ensures NodeResult.LeadsOn := by
  refine ensures_vars.bind fun vars _ => ?_
  refine (ensures_lift _).bind fun message _ => ?_
  refine (ensures_post _ _).bind fun delivery _ => ?_
  dsimp only
  split
  · exact (ensures_recordMessage _).bind fun _ _ => ensures_pure rfl
  · exact ensures_pure rfl

theorem branch_ensures (rules : List ConditionRule) (defaultHandle : String) :
    (branch rules defaultHandle).Ensures fun result => ∃ handle, result.next = .leave handle := by
  refine ensures_vars.bind fun vars _ => ?_
  refine (ensures_lift _).bind fun rule? _ => ?_
  cases rule? <;> exact ensures_pure ⟨_, rfl⟩

theorem assignAll_ensures (assignments : List Assignment) :
    (assignAll assignments).Ensures NodeResult.LeadsOn := by
  refine Ensures.bind (P := fun _ => True) ?_ fun _ _ => ensures_pure rfl
  induction assignments with
  | nil => exact ensures_pure trivial
  | cons assignment rest ih =>
    refine Ensures.bind (P := fun _ => True) ?_ fun _ _ => ih
    refine ensures_vars.bind fun vars _ => ?_
    exact (ensures_lift _).bind fun value _ => ensures_changeEnv _

theorem waitSeconds_ensures (configured : Value) :
    (waitSeconds configured).Ensures fun result =>
      ∃ moment, result.next = .wait timerReason (some moment) := by
  refine (ensures_lift _).bind fun seconds _ => ?_
  refine (ensures_lift _).bind fun number _ => ?_
  refine (ensures_lift _).bind fun span _ => ?_
  refine ensures_time.bind fun time _ => ?_
  exact (ensures_lift _).bind fun resumeAt _ => ensures_pure ⟨resumeAt, rfl⟩

theorem countRound_ensures (id : String) (round last : Int) :
    (countRound id round last).Ensures fun result => ∃ handle, result.next = .leave handle := by
  refine (ensures_changeEnv _).bind fun _ _ => ?_
  refine (ensures_changeEnv _).bind fun _ _ => ?_
  dsimp only
  split
  · exact ensures_pure ⟨_, rfl⟩
  · exact (ensures_changeEnv _).bind fun _ _ => ensures_pure ⟨_, rfl⟩

theorem roundItem?_error {items : List Value} {round : Int} {failure : Failure}
    (h : roundItem? items round = .error failure) : failure = .itemOutOfRange := by
  unfold roundItem? at h
  split at h
  · cases h
  · dsimp only at h
    split at h <;> cases h
    rfl

theorem handOutItem_ensures (collection itemVariable : String) (items : List Value) (round : Int) :
    (handOutItem collection itemVariable items round).Ensures fun _ => True := by
  refine (ensures_liftFailure fun failure h scene => ?_).bind fun found? _ => ?_
  · rw [roundItem?_error h]
    exact .itemOutOfRange
  · cases found? with
    | none => exact ensures_pure trivial
    | some found => exact ensures_changeEnv _

theorem runLoop_ensures (id : String) (plan : LoopPlan) :
    (runLoop id plan).Ensures fun result => ∃ handle, result.next = .leave handle := by
  refine ensures_vars.bind fun vars _ => ?_
  refine (ensures_lift _).bind fun whole _ => ?_
  dsimp only
  split
  · exact countRound_ensures id _ _
  · refine (ensures_lift _).bind fun items _ => ?_
    split
    · exact (handOutItem_ensures _ _ _ _).bind fun _ _ => countRound_ensures id _ _
    · exact countRound_ensures id _ _

theorem takeName_ensures (variableName : String) :
    (takeName recipient variableName).Ensures NodeResult.LeadsOn := by
  refine ensures_vars.bind fun vars _ => ?_
  dsimp only
  split
  · exact (ensures_changeEnv _).bind fun _ _ => ensures_pure rfl
  · exact ensures_assign _ _

theorem takeTimestamp_ensures (variableName : String) :
    (takeTimestamp variableName).Ensures NodeResult.LeadsOn := by
  refine ensures_vars.bind fun vars _ => ?_
  refine (ensures_lift _).bind fun time? _ => ?_
  cases time? with
  | none => exact ensures_time.bind fun time _ => ensures_assign _ _
  | some time => exact ensures_assign _ _

theorem chooseAtRandom_ensures (choices : List String) (variableName : Option String) :
    (chooseAtRandom choices variableName).Ensures fun result =>
      ∃ handle, result.next = .leave handle := by
  refine ensures_vars.bind fun vars _ => ?_
  refine (ensures_lift _).bind fun rendered _ => ?_
  split
  · exact ensures_pure ⟨_, rfl⟩
  · refine ensures_pick.bind fun picked _ => ?_
    cases choiceAt? rendered picked with
    | none => exact ensures_pure ⟨_, rfl⟩
    | some choice =>
      refine Ensures.bind (P := fun _ => True) ?_ fun _ _ => ensures_pure ⟨_, rfl⟩
      cases variableName with
      | none => exact ensures_pure trivial
      | some name => exact (ensures_changeEnv _ : (write name (.text choice)).Ensures _)

theorem computeInto_ensures (variableName : String) (compute : Object → Except Fault Value) :
    (computeInto variableName compute).Ensures NodeResult.LeadsOn := by
  refine ensures_vars.bind fun vars _ => ?_
  exact (ensures_lift _).bind fun value _ => ensures_assign _ _

theorem keepFailure_ensures (reason : String) :
    (keepFailure reason).Ensures NodeResult.LeadsOn := by
  refine (ensures_changeEnv _).bind fun _ _ => ?_
  exact (ensures_changeEnv _).bind fun _ _ => ensures_pure rfl

theorem takeAnswer_ensures (mappings : List ResponseMapping) (body : Value) :
    (takeAnswer mappings body).Ensures fun _ => True := by
  intro scene
  show Ends _ scene ((liftM (takeParts mappings (scene.env.beside body)).1 : Act Unit).run.run _)
  have htaken : (liftM (takeParts mappings (scene.env.beside body)).1 : Act Unit).Ensures
      fun _ => True := (ensures_lift _).mono fun _ _ => trivial
  exact (htaken { scene with env := (takeParts mappings
    (scene.env.beside body)).2.withoutGuest }).earlier ⟨rfl, id⟩

theorem keepAnswer_ensures (mappings : List ResponseMapping) (status : Int) (body : String) :
    (keepAnswer mappings status body).Ensures NodeResult.LeadsOn := by
  refine (takeAnswer_ensures mappings _).bind fun _ _ => ?_
  refine (ensures_changeEnv _).bind fun _ _ => ?_
  refine (ensures_changeEnv _).bind fun _ _ => ?_
  exact (ensures_changeEnv _).bind fun _ _ => ensures_pure rfl

theorem callTimeout_arises {timeoutMs : Option Int} (failure : Failure)
    (h : callTimeout timeoutMs = .error failure) (scene : Scene) : failure.Arises scene := by
  cases timeoutMs with
  | none => cases h
  | some milliseconds =>
    simp only [callTimeout] at h
    split at h
    · cases h
    · split at h <;> cases h
      exact .quotientTooLarge

theorem callService_ensures (call : ApiCall) :
    (callService call).Ensures NodeResult.LeadsOn := by
  refine ensures_vars.bind fun vars _ => ?_
  refine (ensures_lift _).bind fun rendered _ => ?_
  refine (ensures_ofExcept callTimeout_arises).bind fun timeout _ => ?_
  intro scene
  have hperform := ensures_perform rendered timeout scene
  rw [run_bind]
  generalize (perform rendered timeout).run.run scene = performed at hperform
  cases hperform with
  | fails failure after hs hf => exact .fails failure after hs hf
  | gives result after hs hresult =>
    cases result with
    | ok response => exact (keepAnswer_ensures call.mappings response.1 response.2 after).earlier hs
    | error error =>
      dsimp only
      cases hk : error.kept? with
      | some reason => exact (keepFailure_ensures reason after).earlier hs
      | none => exact .fails (.call error) after hs (.service trivial (hresult error rfl hk))

/-- **The conduct of a node**: it leads where its kind leads. -/
theorem NodeConfig.act_ensures (id : String) (config : NodeConfig) :
    (config.act recipient id).Ensures fun result => config.Leads result.next := by
  cases config with
  | trigger | markAsRead => exact ensures_pure rfl
  | send message => exact sendMessage_ensures recipient message
  | waitForReply expected variableName => exact ensures_pure rfl
  | condition rules defaultHandle => exact branch_ensures rules defaultHandle
  | setVariable assignments => exact assignAll_ensures assignments
  | apiCall call => exact callService_ensures call
  | delay seconds => exact waitSeconds_ensures seconds
  | loop plan => exact runLoop_ensures id plan
  | finish kind => exact ensures_pure rfl
  | customerPhone variableName format => exact ensures_assign _ _
  | customerName variableName => exact takeName_ensures recipient variableName
  | customerCountry variableName => exact ensures_assign _ _
  | messageTimestamp variableName => exact takeTimestamp_ensures variableName
  | formatPhone source variableName format => exact computeInto_ensures variableName _
  | randomChoice choices variableName => exact chooseAtRandom_ensures choices variableName
  | dateTime variableName operation format =>
    exact ensures_time.bind fun time _ => computeInto_ensures variableName _
  | math variableName operation left right => exact computeInto_ensures variableName _
  | text variableName operation template => exact computeInto_ensures variableName _

/-- A node whose configuration can be read does what it is configured to do. -/
theorem FlowNode.act_of_configured {node : FlowNode} {config : NodeConfig}
    (h : node.configured? = some config) : node.act recipient = config.act recipient node.id := by
  obtain ⟨type, htype, hconfig⟩ := Option.bind_eq_some_iff.1 h
  unfold act
  rw [htype]
  dsimp only
  cases hread : type.configure node.config with
  | error report =>
    rw [hread] at hconfig
    cases hconfig
  | ok read =>
    rw [hread] at hconfig
    cases hconfig
    rfl

/-- Any node, readable or not, leaves a scene that can come of the one in which it began. -/
theorem FlowNode.act_precedes {node : FlowNode} {before after : Scene}
    {result : Except Failure NodeResult}
    (h : (node.act recipient).run.run before = (result, after)) : before.Precedes after := by
  unfold act at h
  split at h
  · cases h
    exact .refl before
  · split at h
    · next config _ =>
      have hends := config.act_ensures recipient node.id before
      rw [h] at hends
      cases hends with
      | gives result after hs hp => exact hs
      | fails failure after hs hf => exact hs
    · cases h
      exact .refl before

/-- A node that waits can be read, and leads where its kind leads. -/
theorem FlowNode.leads_of_wait {node : FlowNode} {before after : Scene} {result : NodeResult}
    {reason : String} {resumeAt : Option ZonedMoment}
    (h : (node.act recipient).run.run before = (.ok result, after))
    (hw : result.next = .wait reason resumeAt) :
    ∃ config, node.configured? = some config ∧ config.Leads (.wait reason resumeAt) := by
  unfold act at h
  split at h
  · cases h
    cases hw
  · next type htype =>
    split at h
    · next config hconfig =>
      have hends := config.act_ensures recipient node.id before
      rw [h] at hends
      cases hends with
      | gives result after hs hleads =>
        refine ⟨config, ?_, hw ▸ hleads⟩
        rw [configured?, htype, Option.bind_some, hconfig]
        rfl
    · cases h

end ChatFlow

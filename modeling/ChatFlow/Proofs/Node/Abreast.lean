import ChatFlow.Proofs.Node.Plain

/-!
# Nodes side by side

The same work is done in two scenes that differ in what no node can tell. The two runs keep abreast
(`Abreast`) if both give results of a kind or both fail for the same reason, in states that are
alike again; the only other thing that can happen is that an answer throws one of them off, so that
it fails. A `Likeness` says which lines to other services are alike, and that posting and calling
keep them so. `Act.Together` is closed under doing one thing after the other, and each kind of node
has a lemma of its own.

Main statements: `FlowNode.act_abreast`, any node keeps abreast; `Likeness.parallel`, lines that
will give the same answers are alike, whatever was asked on them before.
-/

namespace ChatFlow

/-! ## Two runs -/

/-- What two runs keep: their states are alike, unless an answer throws one of them off. -/
structure Pace (State : Type) where
  Alike : State → State → Prop
  /-- Whether the first run ended in this state because it was thrown off. -/
  Off₁ : State → Prop
  /-- Whether the second run ended in this state because it was thrown off. -/
  Off₂ : State → Prop

/-- How two runs of the same work can end. -/
inductive Abreast {State α β : Type} (pace : Pace State) (R : α → β → Prop) :
    Except Failure α × State → Except Failure β × State → Prop where
  | gives {a : α} {b : β} {s t : State} (ha : R a b) (hs : pace.Alike s t) :
      Abreast pace R (.ok a, s) (.ok b, t)
  | fails {s t : State} (failure : Failure) (hs : pace.Alike s t) :
      Abreast pace R (.error failure, s) (.error failure, t)
  | first {s : State} {other : Except Failure β × State} (failure : Failure) (ho : pace.Off₁ s) :
      Abreast pace R (.error failure, s) other
  | second {t : State} {other : Except Failure α × State} (failure : Failure) (ho : pace.Off₂ t) :
      Abreast pace R other (.error failure, t)

/-- Which lines to other services are alike: posting the same on them, or calling the same service,
keeps them alike, with deliveries of a kind and the same answers to calls. -/
structure Likeness where
  provider : Pace (Line ProviderRequest)
  Web : Line WebRequest → Line WebRequest → Prop
  Delivered : Delivery → Delivery → Prop
  post : ∀ {line₁ line₂ : Line ProviderRequest}, provider.Alike line₁ line₂ →
    ∀ credentials payload, Abreast provider Delivered
      (postToProvider credentials payload line₁) (postToProvider credentials payload line₂)
  call : ∀ {line₁ line₂ : Line WebRequest}, Web line₁ line₂ →
    ∀ (call : RenderedCall) timeout,
      (call.perform timeout line₁).1 = (call.perform timeout line₂).1 ∧
        Web (call.perform timeout line₁).2 (call.perform timeout line₂).2

/-! ## Parallel lines -/

/-- Whether two lines will give the same answers. -/
structure Line.SameAnswers {Request : Type} (line₁ line₂ : Line Request) : Prop where
  answers : line₁.answers = line₂.answers
  standard : line₁.standard = line₂.standard

/-- Whether two lines will give the same answers, and the same was asked on them after some requests
that may differ. -/
structure Line.Parallel {Request : Type} (before₁ before₂ : List Request)
    (line₁ line₂ : Line Request) : Prop extends Line.SameAnswers line₁ line₂ where
  requests : ∃ made, line₁.requests = before₁ ++ made ∧ line₂.requests = before₂ ++ made

namespace Line.Parallel

variable {Request : Type} {before₁ before₂ : List Request} {line₁ line₂ : Line Request}

/-- Lines that will give the same answers are parallel from now on. -/
theorem start (h : Line.SameAnswers line₁ line₂) :
    Parallel line₁.requests line₂.requests line₁ line₂ :=
  ⟨h, [], (List.append_nil _).symm, (List.append_nil _).symm⟩

/-- Parallel lines give the same answer to a request, and stay parallel. -/
theorem ask (h : Parallel before₁ before₂ line₁ line₂) (standard : Nat → Answer)
    (request : Request) :
    (line₁.ask standard request).1 = (line₂.ask standard request).1 ∧
      Parallel before₁ before₂ (line₁.ask standard request).2 (line₂.ask standard request).2 := by
  obtain ⟨made, h₁, h₂⟩ := h.requests
  have hmade : ∃ made', line₁.requests ++ [request] = before₁ ++ made' ∧
      line₂.requests ++ [request] = before₂ ++ made' :=
    ⟨made ++ [request], by rw [h₁, List.append_assoc], by rw [h₂, List.append_assoc]⟩
  unfold Line.ask
  rw [h.answers, h.standard]
  cases line₂.answers with
  | nil => exact ⟨rfl, ⟨rfl, rfl⟩, hmade⟩
  | cons answer rest => exact ⟨rfl, ⟨rfl, rfl⟩, hmade⟩

/-- On parallel lines to the provider, posting a payload comes to the same. -/
theorem post {line₁ line₂ : Line ProviderRequest} {before₁ before₂ : List ProviderRequest}
    (h : Parallel before₁ before₂ line₁ line₂) (credentials : Credentials) (payload : Object) :
    Abreast ⟨Parallel before₁ before₂, fun _ => False, fun _ => False⟩ Eq
      (postToProvider credentials payload line₁) (postToProvider credentials payload line₂) := by
  unfold postToProvider
  split
  · next accessToken phoneNumberId _ _ =>
    cases providerRequest accessToken phoneNumberId payload with
    | error error => exact .fails _ h
    | ok request =>
      obtain ⟨hanswer, hrest⟩ := h.ask standardDelivery request
      dsimp only
      rw [hanswer]
      split
      · next status body _ =>
        cases readDelivery status body with
        | error failure => exact .fails failure hrest
        | ok delivery => exact .gives rfl hrest
      · exact .gives rfl hrest
      · exact .fails _ hrest
  · exact .gives rfl h

/-- On parallel lines to other services, a call comes to the same. -/
theorem call {line₁ line₂ : Line WebRequest} {before₁ before₂ : List WebRequest}
    (h : Parallel before₁ before₂ line₁ line₂) (call : RenderedCall) (timeout : Float) :
    (call.perform timeout line₁).1 = (call.perform timeout line₂).1 ∧
      Parallel before₁ before₂ (call.perform timeout line₁).2 (call.perform timeout line₂).2 := by
  unfold RenderedCall.perform
  cases call.request timeout with
  | error error => exact ⟨rfl, h⟩
  | ok request =>
    obtain ⟨hanswer, hrest⟩ := h.ask RenderedCall.standardAnswer request
    dsimp only
    rw [hanswer]
    split
    · exact ⟨rfl, hrest⟩
    · split
      · exact ⟨rfl, hrest⟩
      · exact ⟨rfl, hrest⟩

end Line.Parallel

namespace Likeness

/-- Lines are alike that will give the same answers and on which the same was asked since. No answer
throws a run off that the other run does not get as well. -/
def parallel (before₁ before₂ : Outside) : Likeness where
  provider := ⟨Line.Parallel before₁.provider.requests before₂.provider.requests,
    fun _ => False, fun _ => False⟩
  Web := Line.Parallel before₁.web.requests before₂.web.requests
  Delivered := Eq
  post := Line.Parallel.post
  call := Line.Parallel.call

variable (L : Likeness)

/-- Whether what lies outside is the same, but for lines that are alike and the messages on record.
-/
structure Outsides (outside₁ outside₂ : Outside) : Prop where
  clock : outside₁.clock = outside₂.clock
  picks : outside₁.picks = outside₂.picks
  provider : L.provider.Alike outside₁.provider outside₂.provider
  web : L.Web outside₁.web outside₂.web

/-- Whether scenes are alike: the variables are the same, and what lies outside is alike. -/
structure Scenes (scene₁ scene₂ : Scene) : Prop where
  env : scene₁.env = scene₂.env
  outside : L.Outsides scene₁.outside scene₂.outside

/-- What two runs keep that work on scenes. -/
def pace : Pace Scene where
  Alike := L.Scenes
  Off₁ scene := L.provider.Off₁ scene.outside.provider
  Off₂ scene := L.provider.Off₂ scene.outside.provider

end Likeness

/-- Whether the clock and the picks are the same, and other services will give the same answers. -/
structure Outside.SameAnswers (outside₁ outside₂ : Outside) : Prop where
  clock : outside₁.clock = outside₂.clock
  picks : outside₁.picks = outside₂.picks
  provider : Line.SameAnswers outside₁.provider outside₂.provider
  web : Line.SameAnswers outside₁.web outside₂.web

theorem Outside.SameAnswers.refl (outside : Outside) : SameAnswers outside outside :=
  ⟨rfl, rfl, ⟨rfl, rfl⟩, ⟨rfl, rfl⟩⟩

/-- Where the same answers will be given, all is alike from now on. -/
theorem Outside.SameAnswers.parallel {outside₁ outside₂ : Outside}
    (h : SameAnswers outside₁ outside₂) :
    (Likeness.parallel outside₁ outside₂).Outsides outside₁ outside₂ :=
  ⟨h.clock, h.picks, .start h.provider, .start h.web⟩

/-! ## Work on two scenes -/

namespace Act

variable {α β : Type}

/-- Whether two pieces of work keep abreast in scenes that are alike. -/
def Together (L : Likeness) (R : α → β → Prop) (act₁ : Act α) (act₂ : Act β) : Prop :=
  ∀ scene₁ scene₂, L.Scenes scene₁ scene₂ →
    Abreast L.pace R (act₁.run.run scene₁) (act₂.run.run scene₂)

/-- Whether work cannot tell scenes apart that are alike: it comes to the same in both. -/
def Blind (L : Likeness) (act : Act α) : Prop := Together L Eq act act

variable {L : Likeness}

/-- Work in a row keeps abreast if all of it does. -/
theorem Together.bind {R : α → α → Prop} {Q : β → β → Prop} {act₁ act₂ : Act α}
    {next₁ next₂ : α → Act β} (h : Together L R act₁ act₂)
    (hnext : ∀ a b, R a b → Together L Q (next₁ a) (next₂ b)) :
    Together L Q (act₁ >>= next₁) (act₂ >>= next₂) := by
  intro scene₁ scene₂ hs
  have hfirst := h scene₁ scene₂ hs
  rw [run_bind, run_bind]
  generalize act₁.run.run scene₁ = run₁ at hfirst
  generalize act₂.run.run scene₂ = run₂ at hfirst
  cases hfirst with
  | gives ha hs => exact hnext _ _ ha _ _ hs
  | fails failure hs => exact .fails failure hs
  | first failure ho => exact .first failure ho
  | second failure ho => exact .second failure ho

/-- What cannot tell scenes apart, followed by what keeps abreast, keeps abreast. -/
theorem Blind.together {Q : β → β → Prop} {act : Act α} {next₁ next₂ : α → Act β}
    (h : act.Blind L) (hnext : ∀ a, Together L Q (next₁ a) (next₂ a)) :
    Together L Q (act >>= next₁) (act >>= next₂) := by
  refine Together.bind h fun a b hab => ?_
  subst hab
  exact hnext a

theorem Blind.bind {act : Act α} {next : α → Act β} (h : act.Blind L)
    (hnext : ∀ a, (next a).Blind L) : (act >>= next).Blind L :=
  h.together hnext

/-- Plain work cannot tell scenes apart that are alike. -/
theorem Plain.blind {act : Act α} (h : act.Plain) : act.Blind L := by
  induction h with
  | onVariables h =>
    obtain ⟨work, hwork⟩ := h
    intro scene₁ scene₂ hs
    rw [hwork, hwork, hs.env]
    cases (work scene₂.env).1 with
    | error failure => exact .fails failure ⟨rfl, hs.outside⟩
    | ok a => exact .gives rfl ⟨rfl, hs.outside⟩
  | time => exact fun _ _ hs => .gives (congrArg Clock.seen hs.outside.clock) hs
  | pick =>
    exact fun _ _ hs => .gives (congrArg (·.headD 0) hs.outside.picks)
      ⟨hs.env, hs.outside.clock, congrArg List.tail hs.outside.picks, hs.outside.provider,
        hs.outside.web⟩
  | bind _ _ ih ihnext => exact ih.bind ihnext

theorem blind_perform (call : RenderedCall) (timeout : Float) :
    (perform call timeout).Blind L := by
  intro scene₁ scene₂ hs
  obtain ⟨hresult, hweb⟩ := L.call hs.outside.web call timeout
  exact .gives hresult ⟨hs.env, hs.outside.clock, hs.outside.picks, hs.outside.provider, hweb⟩

theorem post_together (credentials : Credentials) (payload : Object) :
    Together L L.Delivered (post credentials payload) (post credentials payload) := by
  intro scene₁ scene₂ hs
  have hposted := L.post hs.outside.provider credentials payload
  rw [run_post, run_post]
  generalize postToProvider credentials payload scene₁.outside.provider = posted₁ at hposted
  generalize postToProvider credentials payload scene₂.outside.provider = posted₂ at hposted
  cases hposted with
  | gives hd hp =>
    exact .gives hd ⟨hs.env, hs.outside.clock, hs.outside.picks, hp, hs.outside.web⟩
  | fails failure hp =>
    exact .fails failure ⟨hs.env, hs.outside.clock, hs.outside.picks, hp, hs.outside.web⟩
  | first failure ho => exact .first failure ho
  | second failure ho => exact .second failure ho

end Act

/-! ## Sending -/

/-- Whether nodes have left the same behind, but for what became of a message. -/
inductive Likeness.Results (L : Likeness) : NodeResult → NodeResult → Prop where
  | same (result : NodeResult) : Results L result result
  | sent {delivery₁ delivery₂ : Delivery} (h : L.Delivered delivery₁ delivery₂) :
      Results L delivery₁.result delivery₂.result

/-- Nodes that keep abreast lead to the same place. -/
theorem Likeness.Results.next_eq {L : Likeness} {result₁ result₂ : NodeResult}
    (h : L.Results result₁ result₂) : result₁.next = result₂.next := by
  cases h <;> rfl

open Act

variable {L : Likeness} (recipient : Recipient)

theorem reportDelivery_together (message : OutboundMessage) {delivery₁ delivery₂ : Delivery}
    (h : L.Delivered delivery₁ delivery₂) :
    Together L L.Results (reportDelivery recipient message delivery₁)
      (reportDelivery recipient message delivery₂) := by
  intro scene₁ scene₂ hs
  rw [run_reportDelivery, run_reportDelivery]
  exact .gives (.sent h)
    ⟨hs.env, hs.outside.clock, hs.outside.picks, hs.outside.provider, hs.outside.web⟩

theorem sendMessage_together (template : OutboundMessage) :
    Together L L.Results (sendMessage recipient template) (sendMessage recipient template) := by
  rw [sendMessage_eq]
  refine plain_vars.blind.together fun vars => ?_
  refine (plain_lift _).blind.together fun message => ?_
  exact (post_together _ _).bind fun _ _ h => reportDelivery_together recipient message h

/-! ## The other nodes -/

theorem callService_blind (call : ApiCall) : (callService call).Blind L := by
  rw [callService_eq]
  refine plain_vars.blind.bind fun vars => (plain_lift _).blind.bind fun rendered => ?_
  refine (plain_ofExcept _).blind.bind fun timeout => (blind_perform _ _).bind fun result => ?_
  exact (settleCall_plain call.mappings result).blind

/-- What cannot tell scenes apart leaves the same behind. -/
theorem Act.Blind.results {act : Act NodeResult} (h : act.Blind L) :
    Together L L.Results act act := by
  intro scene₁ scene₂ hs
  have hends := h scene₁ scene₂ hs
  generalize act.run.run scene₁ = run₁ at hends
  generalize act.run.run scene₂ = run₂ at hends
  cases hends with
  | gives ha hs =>
    subst ha
    exact .gives (.same _) hs
  | fails failure hs => exact .fails failure hs
  | first failure ho => exact .first failure ho
  | second failure ho => exact .second failure ho

theorem NodeConfig.act_abreast (id : String) (config : NodeConfig) :
    Together L L.Results (config.act recipient id) (config.act recipient id) := by
  have hdoes := config.act_does recipient id
  generalize config.act recipient id = act at hdoes
  cases hdoes with
  | send message => exact sendMessage_together recipient message
  | call call => exact (callService_blind call).results
  | plain h => exact h.blind.results

/-- **Any node keeps abreast** in scenes that are alike. -/
theorem FlowNode.act_abreast (node : FlowNode) :
    Together L L.Results (node.act recipient) (node.act recipient) := by
  unfold act
  split
  · exact (plain_pure _).blind.results
  · split
    · next config _ => exact config.act_abreast recipient node.id
    · exact (plain_throw _).blind.results

end ChatFlow

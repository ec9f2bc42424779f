import ChatFlow.Proofs.Node.Posted

/-!
# The requests that nodes make

A node that sends a message posts it once, a node that calls another service calls it once, and no
other node asks anything of anyone. `Act.Asks` counts: it says of work that it makes at most so many
requests, to the provider and to other services together, whatever the scene and whether it fails
or not. Work in a row makes at most the sum. `FlowNode.act_asks` puts the kinds of nodes together.
-/

namespace ChatFlow

/-! ## Lines -/

/-- Posting a payload makes one request at most. -/
theorem postToProvider_requests (credentials : Credentials) (payload : Object)
    (line : Line ProviderRequest) :
    ∃ posted, (postToProvider credentials payload line).2.requests = line.requests ++ posted ∧
      posted.length ≤ 1 :=
  ⟨_, postToProvider_posts credentials payload line, Option.length_toList_le⟩

/-- A call makes one request at most. -/
theorem RenderedCall.perform_requests (call : RenderedCall) (timeout : Float)
    (line : Line WebRequest) :
    ∃ called, (call.perform timeout line).2.requests = line.requests ++ called ∧
      called.length ≤ 1 := by
  unfold perform
  cases call.request timeout with
  | error error => exact ⟨[], (List.append_nil _).symm, Nat.zero_le _⟩
  | ok request =>
    have hrequests := line.requests_ask standardAnswer request
    dsimp only
    generalize line.ask standardAnswer request = asked at hrequests
    obtain ⟨answer, rest⟩ := asked
    dsimp only at hrequests ⊢
    refine ⟨[request], ?_, Nat.le_refl _⟩
    split
    · exact hrequests
    · split <;> exact hrequests

/-! ## Work on a scene -/

/-- Whether what lies outside tells of the requests of before and at most so many more. -/
def Outside.Asks (most : Nat) (before after : Outside) : Prop :=
  ∃ posted called, after.provider.requests = before.provider.requests ++ posted ∧
    after.web.requests = before.web.requests ++ called ∧ posted.length + called.length ≤ most

namespace Outside.Asks

variable {m n : Nat} {a b c : Outside}

theorem refl (n : Nat) (outside : Outside) : Asks n outside outside :=
  ⟨[], [], (List.append_nil _).symm, (List.append_nil _).symm, Nat.zero_le _⟩

/-- What is asked adds up. -/
theorem trans (hab : Asks m a b) (hbc : Asks n b c) : Asks (m + n) a c := by
  obtain ⟨posted₁, called₁, hp₁, hc₁, hmost₁⟩ := hab
  obtain ⟨posted₂, called₂, hp₂, hc₂, hmost₂⟩ := hbc
  refine ⟨posted₁ ++ posted₂, called₁ ++ called₂, ?_, ?_, ?_⟩
  · rw [hp₂, hp₁, List.append_assoc]
  · rw [hc₂, hc₁, List.append_assoc]
  · simp only [List.length_append]
    omega

theorem mono (h : Asks m a b) (hle : m ≤ n) : Asks n a b := by
  obtain ⟨posted, called, hp, hc, hmost⟩ := h
  exact ⟨posted, called, hp, hc, hmost.trans hle⟩

end Outside.Asks

namespace Act

variable {α β : Type} {m n : Nat}

/-- Whether work makes at most so many requests. -/
def Asks (most : Nat) (act : Act α) : Prop :=
  ∀ scene : Scene, scene.outside.Asks most (act.run.run scene).2.outside

/-- What a run of such work leaves outside. -/
theorem Asks.of_run {act : Act α} (h : act.Asks n) {scene after : Scene}
    {result : Except Failure α} (hrun : act.run.run scene = (result, after)) :
    scene.outside.Asks n after.outside := by
  have hasks := h scene
  rwa [hrun] at hasks

/-- Work in a row makes at most as many requests as its parts together. -/
theorem Asks.bind {act : Act α} {next : α → Act β} (h : act.Asks m)
    (hnext : ∀ a, (next a).Asks n) : (act >>= next).Asks (m + n) := by
  intro scene
  rw [run_bind]
  rcases hrun : act.run.run scene with ⟨failure | a, after⟩
  · exact (h.of_run hrun).mono (Nat.le_add_right m n)
  · exact (h.of_run hrun).trans (hnext a after)

/-- Plain work asks nothing. -/
theorem Plain.asks {act : Act α} (h : act.Plain) : act.Asks 0 := by
  induction h with
  | onVariables h =>
    obtain ⟨work, hwork⟩ := h
    intro scene
    rw [hwork]
    exact .refl 0 scene.outside
  | time | pick => exact fun scene => Outside.Asks.refl 0 scene.outside
  | bind _ _ ih ihnext => exact ih.bind ihnext

/-- Before and after plain work, as many requests are made as without. -/
theorem Plain.asks_bind {act : Act α} {next : α → Act β} (h : act.Plain)
    (hnext : ∀ a, (next a).Asks n) : (act >>= next).Asks n := by
  have hboth := h.asks.bind hnext
  rwa [Nat.zero_add] at hboth

theorem Asks.bind_plain {act : Act α} {next : α → Act β} (h : act.Asks n)
    (hnext : ∀ a, (next a).Plain) : (act >>= next).Asks n :=
  h.bind fun a => (hnext a).asks

/-- Posting a payload asks once at most. -/
theorem asks_post (credentials : Credentials) (payload : Object) :
    (post credentials payload).Asks 1 := by
  intro scene
  obtain ⟨posted, hposted, hlength⟩ :=
    postToProvider_requests credentials payload scene.outside.provider
  rw [run_post]
  exact ⟨posted, [], hposted, (List.append_nil _).symm, hlength⟩

/-- A call asks once at most. -/
theorem asks_perform (call : RenderedCall) (timeout : Float) : (perform call timeout).Asks 1 := by
  intro scene
  obtain ⟨called, hcalled, hlength⟩ := call.perform_requests timeout scene.outside.web
  exact ⟨[], called, (List.append_nil _).symm, hcalled, by simpa using hlength⟩

end Act

/-! ## The kinds of nodes -/

open Act

variable (recipient : Recipient)

/-- Reporting what became of a message asks nothing. -/
theorem reportDelivery_asks (message : OutboundMessage) (delivery : Delivery) :
    (reportDelivery recipient message delivery).Asks 0 := by
  intro scene
  rw [run_reportDelivery]
  exact ⟨[], [], (List.append_nil _).symm, (List.append_nil _).symm, Nat.le_refl 0⟩

/-- Sending a message asks once at most. -/
theorem sendMessage_asks (template : OutboundMessage) :
    (sendMessage recipient template).Asks 1 := by
  rw [sendMessage_eq]
  refine plain_vars.asks_bind fun vars => (plain_lift _).asks_bind fun message => ?_
  exact (asks_post _ _).bind fun delivery => reportDelivery_asks recipient message delivery

/-- Calling another service asks once at most. -/
theorem callService_asks (call : ApiCall) : (callService call).Asks 1 := by
  rw [callService_eq]
  refine plain_vars.asks_bind fun vars => (plain_lift _).asks_bind fun rendered => ?_
  refine (plain_ofExcept _).asks_bind fun timeout => ?_
  exact (asks_perform _ _).bind_plain fun result => settleCall_plain call.mappings result

/-- Plain work keeps within any number of requests. -/
theorem Act.Plain.asks_le {act : Act NodeResult} (h : act.Plain) : act.Asks 1 :=
  fun scene => (h.asks scene).mono (Nat.zero_le 1)

/-- What a node is configured to do makes one request at most. -/
theorem NodeConfig.act_asks (id : String) (config : NodeConfig) :
    (config.act recipient id).Asks 1 := by
  have hdoes := config.act_does recipient id
  generalize config.act recipient id = act at hdoes
  cases hdoes with
  | send message => exact sendMessage_asks recipient message
  | call call => exact callService_asks call
  | plain h => exact h.asks_le

/-- **A node makes one request at most**, readable or not, and whether it fails or not. -/
theorem FlowNode.act_asks (node : FlowNode) : (node.act recipient).Asks 1 := by
  unfold act
  split
  · exact (plain_pure _).asks_le
  · split
    · next config _ => exact config.act_asks recipient node.id
    · exact (plain_throw _).asks_le

end ChatFlow

import ChatFlow.Flow.Validation
import ChatFlow.Proofs.Gateway
import ChatFlow.Proofs.Node.Plain

/-!
# What nodes post to the provider

A node posts something only if it sends a message and all texts of the message can be rendered:
then it posts this message, once, and puts it on record if the provider took it
(`FlowNode.run_act_of_message`). The work of any other node leaves the line to the provider and the
messages on record alone (`FlowNode.run_act_of_no_message`). So it can be told of any node what it
posts (`FlowNode.requests_act`).
-/

namespace ChatFlow

/-! ## Requests -/

/-- The request that posts a payload: none without credentials, and none if it cannot be written. -/
def Credentials.request? (credentials : Credentials) (payload : Object) : Option ProviderRequest :=
  (presentText? credentials.accessToken).bind fun accessToken =>
    (presentText? credentials.phoneNumberId).bind fun phoneNumberId =>
      (providerRequest accessToken phoneNumberId payload).toOption

theorem Credentials.request?_of_hold {credentials : Credentials}
    {accessToken phoneNumberId : String} (h : credentials.Hold accessToken phoneNumberId)
    (payload : Object) :
    credentials.request? payload =
      (providerRequest accessToken phoneNumberId payload).toOption := by
  rw [request?, h.1, h.2]
  rfl

theorem Credentials.request?_of_missing {credentials : Credentials}
    (h : presentText? credentials.accessToken = none ∨
      presentText? credentials.phoneNumberId = none) (payload : Object) :
    credentials.request? payload = none := by
  rw [request?]
  rcases h with h | h
  · rw [h]
    rfl
  · rw [h]
    exact Option.bind_fun_none _

theorem toOption_eq_some_iff {ε α : Type} {result : Except ε α} {a : α} :
    result.toOption = some a ↔ result = .ok a := by
  cases result <;> simp [Except.toOption]

theorem providerRequest_payload {accessToken phoneNumberId : String} {payload : Object}
    {request : ProviderRequest}
    (h : providerRequest accessToken phoneNumberId payload = .ok request) :
    request.payload = .object payload := by
  simp only [providerRequest] at h
  cases hurl : requestUrl (messagesUrl phoneNumberId) <;>
    cases hheaders : checkHeaders [("Authorization", "Bearer " ++ accessToken)] <;>
    cases hbody : jsonBody (.object payload) <;>
    rw [hurl, hheaders, hbody] at h <;> cases h
  rfl

/-- A request carries the payload that it posts. -/
theorem Credentials.payload_of_request? {credentials : Credentials} {payload : Object}
    {request : ProviderRequest} (h : credentials.request? payload = some request) :
    request.payload = .object payload := by
  obtain ⟨accessToken, -, h⟩ := Option.bind_eq_some_iff.1 h
  obtain ⟨phoneNumberId, -, h⟩ := Option.bind_eq_some_iff.1 h
  exact providerRequest_payload (toOption_eq_some_iff.1 h)

/-- Posting makes the request that posts the payload, and no other. -/
theorem postToProvider_posts (credentials : Credentials) (payload : Object)
    (line : Line ProviderRequest) :
    (postToProvider credentials payload line).2.requests =
      line.requests ++ (credentials.request? payload).toList := by
  by_cases hhold : ∃ accessToken phoneNumberId, credentials.Hold accessToken phoneNumberId
  · obtain ⟨accessToken, phoneNumberId, hhold⟩ := hhold
    rw [postToProvider_eq hhold.1 hhold.2, credentials.request?_of_hold hhold]
    cases providerRequest accessToken phoneNumberId payload with
    | error error => exact (List.append_nil _).symm
    | ok request => exact line.requests_ask _ _
  · have hmissing := Credentials.missing_of_not_hold hhold
    rw [postToProvider_missing hmissing, credentials.request?_of_missing hmissing]
    exact (List.append_nil _).symm

/-- The request that posts a message to a recipient. -/
def OutboundMessage.request? (message : OutboundMessage) (recipient : Recipient) :
    Option ProviderRequest :=
  recipient.credentials.request? (message.payload recipient.customerId)

/-- Whether a message can be posted does not depend on the message: there are credentials, and the
address and the token can be written. -/
theorem OutboundMessage.isSome_request?_iff {message : OutboundMessage} {recipient : Recipient} :
    (message.request? recipient).isSome = true ↔
      ∃ accessToken phoneNumberId, recipient.credentials.Hold accessToken phoneNumberId ∧
        (¬∃ fault, Url.ofText (messagesUrl phoneNumberId) = .error fault) ∧
        ∀ c ∈ accessToken.toList, c.toNat < 0x80 := by
  constructor
  · intro h
    by_cases hhold : ∃ accessToken phoneNumberId,
        recipient.credentials.Hold accessToken phoneNumberId
    · obtain ⟨accessToken, phoneNumberId, hhold⟩ := hhold
      rw [request?, Credentials.request?_of_hold hhold] at h
      have hwritten : ¬∃ error, providerRequest accessToken phoneNumberId
          (message.payload recipient.customerId) = .error error := by
        rintro ⟨error, herror⟩
        rw [herror] at h
        cases h
      rw [providerRequest_error_iff] at hwritten
      simp only [not_or, not_exists, not_and, Nat.not_le] at hwritten
      exact ⟨accessToken, phoneNumberId, hhold, fun ⟨fault, hfault⟩ => hwritten.1 fault hfault,
        hwritten.2.1⟩
    · rw [request?, Credentials.request?_of_missing (Credentials.missing_of_not_hold hhold)] at h
      cases h
  · rintro ⟨accessToken, phoneNumberId, hhold, haddress, htoken⟩
    rw [request?, Credentials.request?_of_hold hhold]
    cases hrequest : providerRequest accessToken phoneNumberId
        (message.payload recipient.customerId) with
    | ok request => rfl
    | error error =>
      rcases providerRequest_error_iff.1 ⟨error, hrequest⟩ with hfault | ⟨c, hc, hbeyond⟩ | hspecial
      · exact absurd hfault haddress
      · exact absurd (htoken c hc) (Nat.not_lt.2 hbeyond)
      · rw [message.payload_special] at hspecial
        cases hspecial

/-! ## Work that posts nothing -/

namespace Act

variable {α β : Type}

/-- Whether work leaves the line to the provider and the messages on record alone. -/
def Quiet (act : Act α) : Prop :=
  ∀ scene : Scene, (act.run.run scene).2.outside.provider = scene.outside.provider ∧
    (act.run.run scene).2.outside.chats = scene.outside.chats

theorem Quiet.bind {act : Act α} {next : α → Act β} (h : act.Quiet)
    (hnext : ∀ a, (next a).Quiet) : (act >>= next).Quiet := by
  intro scene
  have hfirst := h scene
  rw [run_bind]
  rcases hrun : act.run.run scene with ⟨failure | a, after⟩
  · rw [hrun] at hfirst
    exact hfirst
  · rw [hrun] at hfirst
    exact ⟨(hnext a after).1.trans hfirst.1, (hnext a after).2.trans hfirst.2⟩

theorem Plain.quiet {act : Act α} (h : act.Plain) : act.Quiet := by
  induction h with
  | onVariables h =>
    obtain ⟨work, hwork⟩ := h
    intro scene
    rw [hwork]
    exact ⟨rfl, rfl⟩
  | time | pick => exact fun scene => ⟨rfl, rfl⟩
  | bind _ _ ih ihnext => exact ih.bind ihnext

theorem quiet_perform (call : RenderedCall) (timeout : Float) : (perform call timeout).Quiet :=
  fun _ => ⟨rfl, rfl⟩

end Act

open Act

theorem callService_quiet (call : ApiCall) : (callService call).Quiet := by
  rw [callService_eq]
  refine plain_vars.quiet.bind fun vars => (plain_lift _).quiet.bind fun rendered => ?_
  refine (plain_ofExcept _).quiet.bind fun timeout => (quiet_perform _ _).bind fun result => ?_
  exact (settleCall_plain call.mappings result).quiet

/-! ## Nodes -/

/-- The message that a node sends, with its texts rendered: there is none if the node sends none or
a text cannot be rendered. -/
def FlowNode.message? (node : FlowNode) (vars : Object) : Option OutboundMessage :=
  match node.configured? with
  | some (.send template) => (template.render vars).toOption
  | _ => none

/-- The scene when it is known what became of a message. -/
def Scene.withPosted (scene : Scene) (recipient : Recipient) (message : OutboundMessage)
    (posted : Except Failure Delivery × Line ProviderRequest) : Scene :=
  { scene with outside := { scene.outside with
    provider := posted.2
    chats :=
      match posted.1 with
      | .ok delivery => scene.outside.chats.withDelivered recipient message delivery
      | .error _ => scene.outside.chats } }

variable (recipient : Recipient) {node : FlowNode} {scene : Scene}

theorem run_sendMessage {template message : OutboundMessage}
    (h : template.render scene.env.vars = .ok message) :
    (sendMessage recipient template).run.run scene =
      let posted := postToProvider recipient.credentials (message.payload recipient.customerId)
        scene.outside.provider
      (posted.1.map Delivery.result, scene.withPosted recipient message posted) := by
  rw [sendMessage_eq, run_bind, run_vars]
  dsimp only
  rw [run_bind, run_lift, h]
  dsimp only [Except.mapError]
  rw [run_bind, run_post]
  dsimp only
  rcases postToProvider recipient.credentials (message.payload recipient.customerId)
    scene.outside.provider with ⟨failure | delivery, line⟩
  · rfl
  · dsimp only
    rw [run_reportDelivery]
    rfl

/-- **A node that sends a message posts it**, and puts it on record if the provider took it. -/
theorem FlowNode.run_act_of_message {message : OutboundMessage}
    (h : node.message? scene.env.vars = some message) :
    (node.act recipient).run.run scene =
      let posted := postToProvider recipient.credentials (message.payload recipient.customerId)
        scene.outside.provider
      (posted.1.map Delivery.result, scene.withPosted recipient message posted) := by
  rw [message?] at h
  split at h
  · next template hconfigured =>
    rw [FlowNode.act_of_configured recipient hconfigured]
    exact run_sendMessage recipient (toOption_eq_some_iff.1 h)
  · cases h

/-- **A node that sends no message posts nothing**, and puts nothing on record. -/
theorem FlowNode.run_act_of_no_message (h : node.message? scene.env.vars = none) :
    ((node.act recipient).run.run scene).2.outside.provider = scene.outside.provider ∧
      ((node.act recipient).run.run scene).2.outside.chats = scene.outside.chats := by
  unfold act
  split
  · exact (plain_pure _).quiet scene
  · next type htype =>
    split
    · next config hconfig =>
      have hconfigured : node.configured? = some config := by
        rw [configured?, htype, Option.bind_some, hconfig]
        rfl
      have hdoes := config.act_does recipient node.id
      generalize config.act recipient node.id = act at hdoes
      cases hdoes with
      | call call => exact callService_quiet call scene
      | plain h => exact h.quiet scene
      | send template =>
        simp only [message?, hconfigured] at h
        cases hrender : template.render scene.env.vars with
        | ok message =>
          rw [hrender] at h
          cases h
        | error fault =>
          rw [sendMessage_eq, run_bind, run_vars]
          dsimp only
          rw [run_bind, run_lift, hrender]
          exact ⟨rfl, rfl⟩
    · exact (plain_throw _).quiet scene

/-- **What a node posts** is the request for the message that it sends, if there is one. -/
theorem FlowNode.requests_act (node : FlowNode) (scene : Scene) :
    ((node.act recipient).run.run scene).2.outside.provider.requests =
      scene.outside.provider.requests ++
        ((node.message? scene.env.vars).bind (·.request? recipient)).toList := by
  cases hmessage : node.message? scene.env.vars with
  | none =>
    rw [(run_act_of_no_message recipient hmessage).1]
    exact (List.append_nil _).symm
  | some message =>
    rw [run_act_of_message recipient hmessage]
    exact postToProvider_posts _ _ _

end ChatFlow

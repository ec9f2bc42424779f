import ChatFlow.Proofs.Message.Texts
import ChatFlow.Proofs.Store.Records

/-!
# What nodes put on record

A `Sending` is a message that a node sent, with what became of it. `RecordsTaken` says of sendings
that exactly those are on record that the provider took, in the order in which they were sent. It
holds of the work of each node (`FlowNode.recordsTaken_act`), as long as the provider tells the id
of a message by a text or not at all.
-/

namespace ChatFlow

/-! ## Types of messages -/

/-- The type under which the messages of such nodes go on record, if they send any. -/
def NodeType.messageType? : NodeType → Option String
  | .sendText | .sendTextEnhanced => some "text"
  | .sendImage => some "image"
  | .sendButtons | .sendList => some "interactive"
  | .sendVideo => some "video"
  | .sendAudio => some "audio"
  | .sendDocument => some "document"
  | .sendLocation => some "location"
  | .sendContact => some "contacts"
  | .sendSticker => some "sticker"
  | _ => none

/-- The type under which the messages of a node go on record, if it sends any. -/
def FlowNode.messageType? (node : FlowNode) : Option String :=
  (NodeType.ofName? node.type).bind NodeType.messageType?

/-- What is done to the texts of a message does not change its type. -/
theorem OutboundMessage.type_mapTexts (f : String → String) (message : OutboundMessage) :
    (message.mapTexts f).onRecord.1 = message.onRecord.1 := by
  cases message <;> rfl

theorem NodeConfig.messageType?_ofFields {type : NodeType} {fields : Object}
    {template : OutboundMessage} (h : NodeConfig.ofFields type fields = .send template) :
    type.messageType? = some template.onRecord.1 := by
  cases type <;> cases h <;> rfl

/-- The message of a node is of the type that the type of the node tells. -/
theorem FlowNode.messageType?_of_message {node : FlowNode} {vars : Object}
    {message : OutboundMessage} (h : node.message? vars = some message) :
    node.messageType? = some message.onRecord.1 := by
  cases hconfigured : node.configured? with
  | none =>
    rw [message?, hconfigured] at h
    cases h
  | some config =>
  obtain ⟨type, htype, hconfig⟩ := Option.bind_eq_some_iff.1 hconfigured
  obtain ⟨fields, -, rfl⟩ := map_eq_ok_iff.1 (toOption_eq_some_iff.1 hconfig)
  cases hsends : NodeConfig.ofFields type fields with
  | send template =>
    rw [hsends] at hconfigured
    obtain ⟨-, rfl⟩ := (message?_eq_some_iff hconfigured).1 h
    rw [messageType?, htype, OutboundMessage.type_mapTexts]
    exact NodeConfig.messageType?_ofFields hsends
  | _ =>
    rw [message?, hconfigured, hsends] at h
    cases h

/-! ## Sendings -/

/-- Whether an id is a text or null. -/
def Delivery.hasPlainId (delivery : Delivery) : Bool :=
  delivery.providerMessageId.isNull || delivery.providerMessageId.text?.isSome

theorem Delivery.exists_id {delivery : Delivery} (h : delivery.hasPlainId = true) :
    ∃ id, delivery.providerMessageId = .ofText? id := by
  rw [hasPlainId] at h
  cases hid : delivery.providerMessageId with
  | null => exact ⟨none, rfl⟩
  | text id => exact ⟨some id, rfl⟩
  | bool | int | float | list | object =>
    rw [hid] at h
    cases h

/-- A message that a node sent, and what became of it. -/
structure Sending where
  node : FlowNode
  message : OutboundMessage
  result : Except Failure Delivery

namespace Sending

/-- Whether the provider took a message. -/
def taken (sending : Sending) : Bool :=
  match sending.result with
  | .ok delivery => delivery.ok
  | .error _ => false

/-- Whether the provider tells the id of a message that it took by a text, or not at all. -/
def hasPlainId (sending : Sending) : Bool :=
  match sending.result with
  | .ok delivery => !delivery.ok || delivery.hasPlainId
  | .error _ => true

/-- Whether what is on record tells of a message that a node sent: under the type of the node's
messages and under the provider's id, with the text that stands for it and with its link. -/
structure Tells (sending : Sending) (record : ChatMessage) : Prop where
  direction : record.direction = "outbound"
  type : ∃ type, sending.node.messageType? = some type ∧ record.type = some type
  id : ∃ delivery, sending.result = .ok delivery ∧
    delivery.providerMessageId = .ofText? record.providerMessageId
  content : record.content = some sending.message.onRecord.2.1
  link : record.mediaUrl = sending.message.onRecord.2.2
  status : record.status = "sent"

end Sending

/-- Whether exactly those messages were added to a conversation that the provider took, in the order
in which they were sent, and all other conversations are as they were. -/
def RecordsTaken (conversation : Option String) (sendings : List Sending) (before after : Chats) :
    Prop :=
  ∃ added, Chats.Adds conversation added before after ∧
    List.Forall₂ Sending.Tells (sendings.filter Sending.taken) added

section

variable {conversation : Option String} {sendings sendings₁ sendings₂ : List Sending}
  {a b c : Chats}

theorem RecordsTaken.refl (conversation : Option String) (chats : Chats) :
    RecordsTaken conversation [] chats chats :=
  ⟨[], .refl conversation chats, .nil⟩

theorem RecordsTaken.trans (h₁ : RecordsTaken conversation sendings₁ a b)
    (h₂ : RecordsTaken conversation sendings₂ b c) :
    RecordsTaken conversation (sendings₁ ++ sendings₂) a c := by
  obtain ⟨added₁, hadds₁, htells₁⟩ := h₁
  obtain ⟨added₂, hadds₂, htells₂⟩ := h₂
  refine ⟨added₁ ++ added₂, hadds₁.trans hadds₂, ?_⟩
  rw [List.filter_append]
  exact List.rel_append htells₁ htells₂

end

/-! ## Nodes -/

variable (recipient : Recipient) {node : FlowNode} {scene : Scene}

/-- The conversation with a recipient. -/
def Recipient.conversation (recipient : Recipient) : String :=
  conversationId recipient.channelId recipient.customerId

/-- The message that a node sends in a scene, and what becomes of it. -/
def FlowNode.sending? (node : FlowNode) (scene : Scene) : Option Sending :=
  (node.message? scene.env.vars).map fun message =>
    ⟨node, message, (postToProvider recipient.credentials (message.payload recipient.customerId)
      scene.outside.provider).1⟩

/-- A message that a node sent goes on record if the provider took it. -/
theorem Sending.recordsTaken (sending : Sending) (hid : sending.hasPlainId = true)
    (chats : Chats)
    (htype : sending.node.messageType? = some sending.message.onRecord.1) :
    RecordsTaken recipient.conversation [sending] chats
      (match sending.result with
      | .ok delivery => chats.withDelivered recipient sending.message delivery
      | .error _ => chats) := by
  obtain ⟨node, message, failure | delivery⟩ := sending
  · exact .refl _ chats
  by_cases hok : delivery.ok = true
  · obtain ⟨id, hid⟩ : ∃ id, delivery.providerMessageId = .ofText? id := by
      simp only [hasPlainId, hok, Bool.not_true, Bool.false_or] at hid
      exact Delivery.exists_id hid
    refine ⟨[chats.sent recipient message id], ?_, ?_⟩
    · simp only [Chats.withDelivered, if_pos hok, hid]
      exact chats.adds_record recipient message id
    · have htaken : (Sending.mk node message (.ok delivery)).taken = true := hok
      rw [List.filter_cons_of_pos htaken, List.filter_nil]
      exact .cons ⟨rfl, ⟨_, htype, rfl⟩, ⟨delivery, rfl, hid⟩, rfl, rfl, rfl⟩ .nil
  · refine ⟨[], ?_, ?_⟩
    · simp only [Chats.withDelivered, if_neg hok]
      exact .refl _ chats
    · have hlost : ¬(Sending.mk node message (.ok delivery)).taken = true := hok
      rw [List.filter_cons_of_neg hlost, List.filter_nil]
      exact .nil

/-- **The work of a node puts its message on record if the provider took it**, and nothing else. -/
theorem FlowNode.recordsTaken_act
    (hid : ∀ sending ∈ node.sending? recipient scene, sending.hasPlainId = true) :
    RecordsTaken recipient.conversation (node.sending? recipient scene).toList scene.outside.chats
      ((node.act recipient).run.run scene).2.outside.chats := by
  rw [sending?] at hid ⊢
  cases hmessage : node.message? scene.env.vars with
  | none =>
    rw [(run_act_of_no_message recipient hmessage).2]
    exact .refl _ _
  | some message =>
    rw [hmessage] at hid
    rw [run_act_of_message recipient hmessage]
    exact Sending.recordsTaken recipient _ (hid _ rfl) _ (messageType?_of_message hmessage)

end ChatFlow

import ChatFlow.Node.Send

/-!
# Messages on record

`Chats.Adds` says of two states of the records that messages were added to a conversation, and that
all other conversations are as they were. Recording a message that was sent is an instance, if the
provider's id for it is a text or absent (`Chats.adds_record`): nothing else about such a message
can keep it from being recorded.
-/

namespace ChatFlow

@[simp] theorem columnText?_text (text : String) :
    columnText? (.text text) = some (some text) := rfl

/-- A text column takes texts as they are, and null. -/
@[simp] theorem columnText?_ofText? (text : Option String) :
    columnText? (.ofText? text) = some text := by
  cases text <;> rfl

namespace Chats

/-- Whether messages were added to a conversation, and all other conversations are as they were.
Without a conversation nothing was added at all. -/
structure Adds (conversation : Option String) (added : List ChatMessage) (before after : Chats) :
    Prop where
  messages : after.messages = before.messages ++ added
  own : ∀ message ∈ added, some message.conversation = conversation
  others : after.conversations.filter (some ·.id != conversation) =
    before.conversations.filter (some ·.id != conversation)

variable {conversation : Option String} {a b c : Chats} {added added₁ added₂ : List ChatMessage}

theorem Adds.refl (conversation : Option String) (chats : Chats) :
    Adds conversation [] chats chats :=
  ⟨(List.append_nil _).symm, fun _ h => absurd h List.not_mem_nil, rfl⟩

theorem Adds.trans (h₁ : Adds conversation added₁ a b) (h₂ : Adds conversation added₂ b c) :
    Adds conversation (added₁ ++ added₂) a c where
  messages := by rw [h₂.messages, h₁.messages, List.append_assoc]
  own := List.forall_mem_append.2 ⟨h₁.own, h₂.own⟩
  others := h₂.others.trans h₁.others

/-- The latest messages of any other conversation are those of before. -/
theorem Adds.latest_eq (h : Adds conversation added a b) {channel : Option String}
    {customer : String} (hother : some (conversationId channel customer) ≠ conversation)
    (limit : Int) : b.latest channel customer limit = a.latest channel customer limit := by
  have hnone : added.filter (·.conversation == conversationId channel customer) = [] := by
    rw [List.filter_eq_nil_iff]
    intro message hmessage hsame
    exact hother (beq_iff_eq.1 hsame ▸ h.own message hmessage)
  rw [latest, latest, h.messages, List.filter_append, hnone, List.append_nil]

/-- Putting a conversation in its place leaves the others alone. -/
theorem filter_putConversation (conversation : Conversation) (conversations : List Conversation) :
    (putConversation conversation conversations).filter (some ·.id != some conversation.id) =
      conversations.filter (some ·.id != some conversation.id) := by
  induction conversations with
  | nil => simp [putConversation]
  | cons first rest ih =>
    rw [putConversation]
    split
    · next h => simp [h]
    · next h => simp only [List.filter_cons, ih]

/-- What is kept of a message that was sent. -/
def sent (chats : Chats) (recipient : Recipient) (message : OutboundMessage) (id : Option String) :
    ChatMessage :=
  ⟨chats.messages.length + 1, conversationId recipient.channelId recipient.customerId, "outbound",
    some message.onRecord.1, some message.onRecord.2.1, message.onRecord.2.2, id, "sent"⟩

/-- What the conversation becomes with a message that was sent: nothing in it is unread. -/
def answered (chats : Chats) (recipient : Recipient) (message : OutboundMessage) : Conversation :=
  ⟨conversationId recipient.channelId recipient.customerId,
    ((chats.conversation? recipient.channelId recipient.customerId).map (·.customerName)).getD
      (some recipient.customerId),
    some message.onRecord.2.1, 0⟩

/-- A message that was sent can be kept if the provider's id for it can. -/
theorem record_entry (chats : Chats) (recipient : Recipient) (message : OutboundMessage)
    (id : Option String) :
    chats.record (message.entry recipient (.ofText? id)) =
      ⟨putConversation (chats.answered recipient message) chats.conversations,
        chats.messages ++ [chats.sent recipient message id]⟩ := by
  simp only [record, record?, messageOf?, OutboundMessage.entry, columnText?_text,
    columnText?_ofText?]
  rfl

/-- **A message that was sent is added to the conversation with its recipient**, if the provider's
id for it is a text or absent. -/
theorem adds_record (chats : Chats) (recipient : Recipient) (message : OutboundMessage)
    (id : Option String) :
    Adds (some (conversationId recipient.channelId recipient.customerId))
      [chats.sent recipient message id] chats
      (chats.record (message.entry recipient (.ofText? id))) := by
  rw [record_entry]
  exact ⟨rfl, List.forall_mem_singleton.2 rfl,
    filter_putConversation (chats.answered recipient message) chats.conversations⟩

end Chats

end ChatFlow

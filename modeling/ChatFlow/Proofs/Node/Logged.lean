import ChatFlow.Proofs.Node.Handles
import ChatFlow.Proofs.Node.Plain
import ChatFlow.Proofs.Value.Paths

/-!
# What the log tells of a node

The log keeps one entry of a node, with the fields that tell what came of it (`outcomeFields`) and
with what the node notes. Most nodes note things under names of their own, and none of these is a
field that tells what came of the node. But a node that computes a variable notes its value under
the variable's name, which is chosen in the configuration (`NodeConfig.notedVariable?`); and a note
that bears the name of a field takes its place.

Main statement: `FlowNode.tells_truth_iff`, the nodes of which the entry tells the truth.
-/

namespace ChatFlow

/-! ## Entries -/

/-- The fields of an entry that tell what came of a node. -/
def outcomeFields : List String :=
  ["success", "output_handle", "wait", "wait_for", "resume_at", "end"]

namespace Next

/-- The handle by which a node is left. -/
def handle? : Next → Option String
  | .leave handle => handle
  | _ => none

/-- What a node waits for. -/
def reason? : Next → Option String
  | .wait reason _ => some reason
  | _ => none

/-- The moment up to which a node waits. -/
def moment? : Next → Option ZonedMoment
  | .wait _ resumeAt => resumeAt
  | _ => none

end Next

/-- A field that is there, and true, in some cases only. -/
def flagField (isSet : Prop) [Decidable isSet] : Option Value :=
  if isSet then some (.bool true) else none

/-- Whether an entry tells the truth of a result. Every result is that of a node which succeeded. -/
structure NodeResult.IsToldBy (result : NodeResult) (entry : Object) : Prop where
  success : entry.field? "success" = some (.bool true)
  handle : entry.field? "output_handle" = result.next.handle?.map .text
  wait : entry.field? "wait" = flagField (result.next.reason?.isSome = true)
  reason : entry.field? "wait_for" = result.next.reason?.map .text
  moment : entry.field? "resume_at" = result.next.moment?.map (.text ·.isoText)
  finish : entry.field? "end" = flagField (result.next = .finish)

namespace NodeResult

variable {result : NodeResult} {entry other : Object}

/-- An entry without notes tells the truth. -/
theorem isToldBy_unnoted (result : NodeResult) :
    result.IsToldBy (("success", .bool true) :: result.next.logged) := by
  obtain ⟨next, notes⟩ := result
  cases next with
  | leave handle => cases handle <;> exact ⟨rfl, rfl, rfl, rfl, rfl, rfl⟩
  | wait reason resumeAt => cases resumeAt <;> exact ⟨rfl, rfl, rfl, rfl, rfl, rfl⟩
  | finish => exact ⟨rfl, rfl, rfl, rfl, rfl, rfl⟩

/-- What an entry tells depends on its own fields only. -/
theorem IsToldBy.congr (h : result.IsToldBy entry)
    (hsame : ∀ name ∈ outcomeFields, other.field? name = entry.field? name) :
    result.IsToldBy other where
  success := (hsame _ (by decide)).trans h.success
  handle := (hsame _ (by decide)).trans h.handle
  wait := (hsame _ (by decide)).trans h.wait
  reason := (hsame _ (by decide)).trans h.reason
  moment := (hsame _ (by decide)).trans h.moment
  finish := (hsame _ (by decide)).trans h.finish

end NodeResult

/-- Updating leaves all other fields alone. -/
theorem Object.field?_update_of_not_mem {changes : Object} {name : String}
    (h : name ∉ changes.map (·.1)) (fields : Object) :
    (fields.update changes).field? name = fields.field? name := by
  induction changes generalizing fields with
  | nil => rfl
  | cons change rest ih =>
    obtain ⟨key, value⟩ := change
    rw [List.map_cons, List.mem_cons, not_or] at h
    exact (ih h.2 (fields.put key value)).trans (field?_put_of_ne (Ne.symm h.1) fields value)

/-- Whether notes bear none of the names that an entry has fields of its own for. -/
def Object.SparesOutcome (notes : Object) : Prop :=
  ∀ name ∈ outcomeFields, name ∉ notes.map (·.1)

/-- An entry tells the truth if the notes in it spare its own fields. -/
theorem NodeResult.isToldBy_logged {result : NodeResult} (h : result.notes.SparesOutcome) :
    result.IsToldBy result.logged :=
  result.isToldBy_unnoted.congr fun name hname => Object.field?_update_of_not_mem (h name hname) _

/-! ## Notes -/

/-- The variable under whose name a node notes the value that it computed. -/
def NodeConfig.notedVariable? : NodeConfig → Option String
  | .customerPhone variableName _ | .customerName variableName | .customerCountry variableName
  | .messageTimestamp variableName | .formatPhone _ variableName _ | .dateTime variableName _ _
  | .math variableName _ _ _ | .text variableName _ _ => some variableName
  | _ => none

/-- Whether a node makes notes of this kind: the value of the variable that it computes, or notes
that spare the fields of an entry. -/
def NodeConfig.Notes (config : NodeConfig) (notes : Object) : Prop :=
  match config.notedVariable? with
  | some name => ∃ value, notes = [(name, value)]
  | none => notes.SparesOutcome

namespace Act

variable {α β : Type} {P : α → Prop} {Q : β → Prop}

/-- Whether all that work gives is of a kind, if it succeeds. -/
def Gives (act : Act α) (P : α → Prop) : Prop :=
  ∀ before after a, act.run.run before = (.ok a, after) → P a

theorem gives_pure {a : α} (h : P a) : (pure a : Act α).Gives P := by
  rintro before after _ ⟨⟩
  exact h

/-- Work that ends in some way gives things of the kind. -/
theorem Ensures.gives {act : Act α} (h : act.Ensures P) : act.Gives P := by
  intro before after a hrun
  have hends := h before
  rw [hrun] at hends
  cases hends with
  | gives a after hs ha => exact ha

/-- What work in a row gives is given by the last part. -/
theorem gives_bind {act : Act α} {next : α → Act β} (h : ∀ a, (next a).Gives Q) :
    (act >>= next).Gives Q := by
  intro before after b hrun
  obtain ⟨a, middle, -, hlast⟩ := run_bind_ok hrun
  exact h a middle after b hlast

/-- What is computed is assigned and noted. -/
theorem run_computeInto {variableName : String} {compute : Object → Except Fault Value}
    {scene : Scene} {value : Value} (h : compute scene.env.vars = .ok value) :
    (computeInto variableName compute).run.run scene =
      (.ok ⟨.leave none, [(variableName, value)]⟩,
        { scene with env := scene.env.write variableName value }) := by
  rw [computeInto, run_bind, run_vars]
  dsimp only
  rw [run_bind, run_lift, h]
  rfl

end Act

open Act

variable (recipient : Recipient)

/-- Names are spared that are no fields of an entry. -/
theorem sparesOutcome_of_names {notes : Object} (names : List String)
    (hnames : notes.map (·.1) = names) (h : ∀ name ∈ outcomeFields, name ∉ names) :
    notes.SparesOutcome :=
  fun name hname => hnames ▸ h name hname

theorem sendMessage_notes (template : OutboundMessage) :
    (sendMessage recipient template).Gives (·.notes.SparesOutcome) := by
  refine gives_bind fun vars => gives_bind fun message => gives_bind fun delivery => ?_
  have hnotes : Object.SparesOutcome [("sent", .bool delivery.ok),
      ("provider_message_id", delivery.providerMessageId), ("error", delivery.error)] :=
    sparesOutcome_of_names ["sent", "provider_message_id", "error"] rfl (by decide)
  dsimp only
  split
  · exact gives_bind fun _ => gives_pure hnotes
  · exact gives_pure hnotes

theorem branch_notes (rules : List ConditionRule) (defaultHandle : String) :
    (branch rules defaultHandle).Gives (·.notes.SparesOutcome) := by
  refine gives_bind fun vars => gives_bind fun rule? => ?_
  cases rule? <;> exact gives_pure (sparesOutcome_of_names ["matched"] rfl (by decide))

theorem assignAll_notes (assignments : List Assignment) :
    (assignAll assignments).Gives (·.notes.SparesOutcome) :=
  gives_bind fun _ => gives_pure (sparesOutcome_of_names ["assigned"] rfl (by decide))

theorem settleCall_notes (mappings : List ResponseMapping)
    (outcome : Except CallError (Int × String)) :
    (settleCall mappings outcome).Gives (·.notes.SparesOutcome) := by
  cases outcome with
  | ok answer =>
    exact gives_bind fun _ => gives_bind fun _ => gives_bind fun _ => gives_bind fun _ =>
      gives_pure (sparesOutcome_of_names [statusVariable, successVariable] rfl (by decide))
  | error error =>
    rw [settleCall]
    cases error.kept? with
    | none =>
      rintro before after _ ⟨⟩
    | some reason =>
      exact gives_bind fun _ => gives_bind fun _ =>
        gives_pure (sparesOutcome_of_names [successVariable, errorVariable] rfl (by decide))

theorem callService_notes (call : ApiCall) :
    (callService call).Gives (·.notes.SparesOutcome) := by
  rw [callService_eq]
  exact gives_bind fun _ => gives_bind fun _ => gives_bind fun _ => gives_bind fun _ =>
    settleCall_notes call.mappings _

theorem waitSeconds_notes (configured : Value) :
    (waitSeconds configured).Gives (·.notes.SparesOutcome) :=
  gives_bind fun _ => gives_bind fun _ => gives_bind fun _ => gives_bind fun _ =>
    gives_bind fun _ => gives_pure (sparesOutcome_of_names ["delay_seconds"] rfl (by decide))

theorem countRound_notes (id : String) (round last : Int) :
    (countRound id round last).Gives (·.notes.SparesOutcome) := by
  refine gives_bind fun _ => gives_bind fun _ => ?_
  dsimp only
  split
  · exact gives_pure (sparesOutcome_of_names ["iteration"] rfl (by decide))
  · exact gives_bind fun _ => gives_pure (sparesOutcome_of_names ["iteration"] rfl (by decide))

theorem runLoop_notes (id : String) (plan : LoopPlan) :
    (runLoop id plan).Gives (·.notes.SparesOutcome) := by
  refine gives_bind fun vars => gives_bind fun whole => ?_
  dsimp only
  split
  · exact countRound_notes id _ _
  · refine gives_bind fun items => ?_
    split
    · exact gives_bind fun _ => countRound_notes id _ _
    · exact countRound_notes id _ _

theorem chooseAtRandom_notes (choices : List String) (variableName : Option String) :
    (chooseAtRandom choices variableName).Gives (·.notes.SparesOutcome) := by
  refine gives_bind fun vars => gives_bind fun rendered => ?_
  split
  · exact gives_pure (sparesOutcome_of_names ["choice"] rfl (by decide))
  · refine gives_bind fun picked => ?_
    cases choiceAt? rendered picked with
    | none => exact gives_pure (sparesOutcome_of_names ["choice"] rfl (by decide))
    | some choice =>
      exact gives_bind fun _ => gives_pure (sparesOutcome_of_names ["choice"] rfl (by decide))

/-- Assigning notes what is assigned. -/
theorem assign_notes (variableName : String) (value : Value) :
    (Act.assign variableName value).Gives fun result =>
      ∃ value, result.notes = [(variableName, value)] :=
  gives_bind fun _ => gives_pure ⟨value, rfl⟩

theorem computeInto_notes (variableName : String) (compute : Object → Except Fault Value) :
    (computeInto variableName compute).Gives fun result =>
      ∃ value, result.notes = [(variableName, value)] :=
  gives_bind fun _ => gives_bind fun value => assign_notes variableName value

theorem takeName_notes (variableName : String) :
    (takeName recipient variableName).Gives fun result =>
      ∃ value, result.notes = [(variableName, value)] := by
  refine gives_bind fun vars => ?_
  dsimp only
  split
  · exact gives_bind fun _ => gives_pure ⟨_, rfl⟩
  · exact assign_notes variableName _

theorem takeTimestamp_notes (variableName : String) :
    (takeTimestamp variableName).Gives fun result =>
      ∃ value, result.notes = [(variableName, value)] := by
  refine gives_bind fun vars => gives_bind fun time? => ?_
  cases time? with
  | none => exact gives_bind fun time => assign_notes variableName _
  | some time => exact assign_notes variableName _

/-- **What a node notes**: the value of the variable that it computes, under the variable's name, or
things that no field of an entry is named for. -/
theorem NodeConfig.act_notes (id : String) (config : NodeConfig) :
    (config.act recipient id).Gives fun result => config.Notes result.notes := by
  cases config with
  | trigger | markAsRead | waitForReply =>
    exact gives_pure (sparesOutcome_of_names [] rfl (by decide))
  | finish kind => exact gives_pure (sparesOutcome_of_names ["end_type"] rfl (by decide))
  | send message => exact sendMessage_notes recipient message
  | condition rules defaultHandle => exact branch_notes rules defaultHandle
  | setVariable assignments => exact assignAll_notes assignments
  | apiCall call => exact callService_notes call
  | delay seconds => exact waitSeconds_notes seconds
  | loop plan => exact runLoop_notes id plan
  | randomChoice choices variableName => exact chooseAtRandom_notes choices variableName
  | customerPhone variableName format => exact assign_notes variableName _
  | customerName variableName => exact takeName_notes recipient variableName
  | customerCountry variableName => exact assign_notes variableName _
  | messageTimestamp variableName => exact takeTimestamp_notes variableName
  | formatPhone source variableName format => exact computeInto_notes variableName _
  | dateTime variableName operation format =>
    exact gives_bind fun time => computeInto_notes variableName _
  | math variableName operation left right => exact computeInto_notes variableName _
  | text variableName operation template => exact computeInto_notes variableName _

/-- A node that computes a variable leads on without branching. -/
theorem NodeConfig.Leads.of_notedVariable? {config : NodeConfig} {next : Next} {name : String}
    (h : config.Leads next) (hname : config.notedVariable? = some name) : next = .leave none := by
  cases config with
  | customerPhone | customerName | customerCountry | messageTimestamp | formatPhone | dateTime
  | math | text => exact h
  | _ => cases hname

/-! ## The truth -/

/-- A note that bears the name of a field takes its place. Of a node that leads on without branching
the entry then tells the truth only if the field is the one for success, and the note is true. -/
theorem NodeResult.isToldBy_noted_iff {result : NodeResult} {name : String} {value : Value}
    (hnext : result.next = .leave none) (hnotes : result.notes = [(name, value)])
    (hname : name ∈ outcomeFields) :
    result.IsToldBy result.logged ↔ name = "success" ∧ value = .bool true := by
  have hfield : result.logged.field? name = some value := by
    rw [logged, hnotes]
    exact Object.field?_put_self _ name value
  constructor
  · intro h
    -- all fields but the first are absent, so nothing may be noted under their names
    simp only [outcomeFields, List.mem_cons, List.not_mem_nil, or_false] at hname
    rcases hname with rfl | rfl | rfl | rfl | rfl | rfl
    · exact ⟨rfl, Option.some.inj (hfield.symm.trans h.success)⟩
    · cases hfield.symm.trans (h.handle.trans (by rw [hnext]))
    · cases hfield.symm.trans (h.wait.trans (by rw [hnext]))
    · cases hfield.symm.trans (h.reason.trans (by rw [hnext]))
    · cases hfield.symm.trans (h.moment.trans (by rw [hnext]))
    · cases hfield.symm.trans (h.finish.trans (by rw [hnext]))
  · rintro ⟨rfl, rfl⟩
    rw [logged, hnotes]
    exact result.isToldBy_unnoted

/-- **The log tells the truth of a node**, of whatever kind it is and whatever it meets, unless the
variable that it computes bears the name of a field of the entry: for success, the handle, the wait,
its reason and its end, or the end of the walk. In this case the entry has the variable's value for
this field, which is the truth only if the field is the one for success and the value is true. -/
theorem FlowNode.tells_truth_iff {node : FlowNode} {config : NodeConfig}
    (hc : node.configured? = some config) {recipient : Recipient} {before after : Scene}
    {result : NodeResult} (h : (node.act recipient).run.run before = (.ok result, after)) :
    result.IsToldBy result.logged ↔
      ∀ name, config.notedVariable? = some name → name ∈ outcomeFields →
        name = "success" ∧ result.notes = [(name, .bool true)] := by
  rw [FlowNode.act_of_configured recipient hc] at h
  have hnotes : config.Notes result.notes :=
    config.act_notes recipient node.id before after result h
  have hleads : config.Leads result.next :=
    (config.act_ensures recipient node.id).gives before after result h
  unfold NodeConfig.Notes at hnotes
  split at hnotes
  · next name hname =>
    obtain ⟨value, hvalue⟩ := hnotes
    by_cases hfield : name ∈ outcomeFields
    · rw [NodeResult.isToldBy_noted_iff (hleads.of_notedVariable? hname) hvalue hfield]
      constructor
      · rintro ⟨rfl, rfl⟩ other hother -
        obtain rfl := Option.some.inj (hname.symm.trans hother)
        exact ⟨rfl, hvalue⟩
      · intro hall
        obtain ⟨rfl, htrue⟩ := hall name hname hfield
        rw [hvalue] at htrue
        cases htrue
        exact ⟨rfl, rfl⟩
    · have hspares : result.notes.SparesOutcome := by
        rw [hvalue]
        rintro other hin hmem
        obtain rfl := List.mem_singleton.1 hmem
        exact hfield hin
      refine ⟨fun _ other hother hin => ?_, fun _ => NodeResult.isToldBy_logged hspares⟩
      obtain rfl := Option.some.inj (hname.symm.trans hother)
      exact absurd hin hfield
  · next hnone =>
    refine ⟨fun _ name hname => ?_, fun _ => NodeResult.isToldBy_logged hnotes⟩
    cases hnone.symm.trans hname

/-! ## A node that looks for a text -/

/-- A node that tells by a variable whether a text is found in another. -/
def searchNode (variableName : String) : FlowNode where
  id := "s"
  type := "textOperation"
  config := .object [("operation", .text "contains"), ("text", .text "no"),
    ("search", .text "yes"), ("variableName", .text variableName)]

/-- What the node does is configured as it says. -/
theorem configured_searchNode (variableName : String) :
    (searchNode variableName).configured? =
      some (.text variableName (.contains "yes") "no") := by
  rfl

/-- It does not find the text. -/
theorem run_searchNode (variableName : String) :
    ((searchNode variableName).act someRecipient).run.run bareScene =
      (.ok ⟨.leave none, [(variableName, .bool false)]⟩,
        { bareScene with env := bareScene.env.write variableName (.bool false) }) := by
  have hfound : computeText (.contains "yes") "no" [] = .ok (.bool false) := by cbv
  rw [FlowNode.act_of_configured someRecipient (configured_searchNode variableName)]
  exact Act.run_computeInto hfound

/-- What is found is told under another name than those of the fields. -/
theorem FlowNode.tells_truth_iff_found :
    let result : NodeResult := ⟨.leave none, [("found", .bool false)]⟩
    (((searchNode "found").act someRecipient).run.run bareScene).1 = .ok result ∧
      result.IsToldBy result.logged := by
  intro result
  have hrun := run_searchNode "found"
  refine ⟨congrArg Prod.fst hrun, (tells_truth_iff (configured_searchNode "found") hrun).2 ?_⟩
  rintro name ⟨⟩ hfield
  exact absurd hfield (by decide)

/-- **An entry that denies a success**: the node succeeds, and finds nothing. -/
theorem note_denies_success :
    let result : NodeResult := ⟨.leave none, [("success", .bool false)]⟩
    (((searchNode "success").act someRecipient).run.run bareScene).1 = .ok result ∧
      result.logged.field? "success" = some (.bool false) ∧ ¬ result.IsToldBy result.logged := by
  intro result
  have hfield : result.logged.field? "success" = some (.bool false) := by rfl
  refine ⟨congrArg Prod.fst (run_searchNode "success"), hfield, fun h => ?_⟩
  cases hfield.symm.trans h.success

end ChatFlow

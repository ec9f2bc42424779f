import ChatFlow.Flow.Validation
import ChatFlow.Proofs.Node.Conduct
import ChatFlow.Proofs.Value.Placeholders

/-!
# The handles that nodes are left by

A flow is published after its edges were compared with the handles that its nodes say they can be
left by (`NodeConfig.allowedHandles`). `FlowNode.allows_iff_not_strays` says when a node keeps to
what it says: it is left by a handle that it allows, or by none if it does not branch, unless it
strays (`NodeConfig.Strays`). A node strays in three ways. The default handle of a condition is
empty, and what stands in for it is no handle of the condition; a choice by chance has no choices;
or a choice renders to a text that is not one of the choices.

None of these happens to a node whose handles are plain (`NodeConfig.IsPlain.not_strays`).
-/

namespace ChatFlow

/-- Whether a node says that it can be left by a handle. A node that does not branch is left without
one. -/
def NodeConfig.Allows (config : NodeConfig) (handle : Option String) : Prop :=
  match config.allowedHandles with
  | none => handle = none
  | some allowed => ∃ name ∈ allowed, handle = some name

/-- The handles by which a node is left although it does not say that it can be. -/
inductive NodeConfig.Strays (vars : Object) : NodeConfig → Option String → Prop where
  /-- No rule holds, the default handle is empty, and the one that stands in for it leads along no
  rule. -/
  | standIn {rules : List ConditionRule} (hnone : firstRule? vars rules = .ok none)
      (hno : falseHandle ∉ rules.map (·.handle)) :
      Strays vars (.condition rules "") (some falseHandle)
  | noChoice (variableName : Option String) : Strays vars (.randomChoice [] variableName) none
  /-- A choice is rendered to another text. -/
  | rendered {choices : List String} {choice text : String} (variableName : Option String)
      (hc : choice ∈ choices) (hr : renderTemplate vars choice = .ok text) (hno : text ∉ choices) :
      Strays vars (.randomChoice choices variableName) (some text)

/-! ## Work that succeeds -/

namespace Act

variable {α β : Type} {before after : Scene}

/-- Work in a row succeeds if its parts do. -/
theorem run_bind_ok {act : Act α} {next : α → Act β} {b : β}
    (h : (act >>= next).run.run before = (.ok b, after)) :
    ∃ a middle, act.run.run before = (.ok a, middle) ∧
      (next a).run.run middle = (.ok b, after) := by
  rw [run_bind] at h
  split at h
  · next a middle hact => exact ⟨a, middle, hact, h⟩
  · cases h

/-- What is computed from the variables changes nothing. -/
theorem run_lift_ok {result : Except Fault α} {a : α}
    (h : (liftM result : Act α).run.run before = (.ok a, after)) :
    result = .ok a ∧ after = before := by
  cases result with
  | error fault => cases h
  | ok found =>
    cases h
    exact ⟨rfl, rfl⟩

theorem run_vars_ok {vars : Object} (h : Act.vars.run.run before = (.ok vars, after)) :
    vars = before.env.vars ∧ after = before := by
  cases h
  exact ⟨rfl, rfl⟩

end Act

/-! ## Conditions -/

open Act

variable {before after : Scene} {result : NodeResult} {handle : Option String}

/-- The first rule that holds is one of the rules. -/
theorem firstRule?_mem {vars : Object} {rules : List ConditionRule} {rule : ConditionRule}
    (h : firstRule? vars rules = .ok (some rule)) : rule ∈ rules := by
  induction rules with
  | nil => cases h
  | cons first rest ih =>
    rw [firstRule?] at h
    cases hholds : conditionHolds first.variableName first.operator first.expected vars with
    | error fault =>
      rw [hholds] at h
      cases h
    | ok holds =>
      rw [hholds] at h
      cases holds with
      | true =>
        cases h
        exact List.mem_cons_self
      | false => exact List.mem_cons_of_mem _ (ih h)

/-- A condition is left by the handle of one of its rules; or no rule holds, and it is left by the
default handle or by what stands in for it. -/
theorem branch_leaves {rules : List ConditionRule} {defaultHandle : String}
    (h : (branch rules defaultHandle).run.run before = (.ok result, after)) :
    (∃ rule ∈ rules, result.next = .leave (some rule.handle)) ∨
      (firstRule? before.env.vars rules = .ok none ∧ result.next =
        .leave (some (if defaultHandle.isEmpty then falseHandle else defaultHandle))) := by
  obtain ⟨vars, scene, hvars, h⟩ := run_bind_ok h
  obtain ⟨rfl, rfl⟩ := run_vars_ok hvars
  obtain ⟨rule?, last, hrule, h⟩ := run_bind_ok h
  obtain ⟨hfirst, rfl⟩ := run_lift_ok hrule
  cases rule? with
  | none =>
    cases h
    exact .inr ⟨hfirst, rfl⟩
  | some rule =>
    cases h
    exact .inl ⟨rule, firstRule?_mem hfirst, rfl⟩

/-! ## Loops -/

/-- A loop is left by one of its two handles. -/
def NodeResult.LeavesLoop (result : NodeResult) : Prop :=
  result.next = .leave (some loopHandle) ∨ result.next = .leave (some completeHandle)

theorem countRound_leaves (id : String) (round last : Int) :
    (countRound id round last).Ensures NodeResult.LeavesLoop := by
  refine (ensures_changeEnv _).bind fun _ _ => (ensures_changeEnv _).bind fun _ _ => ?_
  dsimp only
  split
  · exact ensures_pure (.inl rfl)
  · exact (ensures_changeEnv _).bind fun _ _ => ensures_pure (.inr rfl)

theorem runLoop_leaves (id : String) (plan : LoopPlan) :
    (runLoop id plan).Ensures NodeResult.LeavesLoop := by
  refine ensures_vars.bind fun vars _ => (ensures_lift _).bind fun whole _ => ?_
  dsimp only
  split
  · exact countRound_leaves id _ _
  · refine (ensures_lift _).bind fun items _ => ?_
    split
    · exact (handOutItem_ensures _ _ _ _).bind fun _ _ => countRound_leaves id _ _
    · exact countRound_leaves id _ _

/-! ## Choices by chance -/

/-- Choices render to as many texts, each of which is what one of them renders to. -/
theorem mapM_renderTemplate_ok {vars : Object} {choices texts : List String}
    (h : choices.mapM (renderTemplate vars) = .ok texts) :
    texts.length = choices.length ∧
      ∀ text ∈ texts, ∃ choice ∈ choices, renderTemplate vars choice = .ok text := by
  induction choices generalizing texts with
  | nil =>
    cases h
    exact ⟨rfl, fun _ htext => absurd htext List.not_mem_nil⟩
  | cons choice rest ih =>
    rw [List.mapM_cons] at h
    cases hr : renderTemplate vars choice with
    | error fault =>
      rw [hr] at h
      cases h
    | ok first =>
    cases hrest : rest.mapM (renderTemplate vars) with
    | error fault =>
      rw [hr, hrest] at h
      cases h
    | ok others =>
    rw [hr, hrest] at h
    cases h
    obtain ⟨hlength, hall⟩ := ih hrest
    refine ⟨congrArg (· + 1) hlength, List.forall_mem_cons.2
      ⟨⟨choice, List.mem_cons_self, hr⟩, fun text htext => ?_⟩⟩
    obtain ⟨found, hfound, hrender⟩ := hall text htext
    exact ⟨found, List.mem_cons_of_mem _ hfound, hrender⟩

/-- A pick chooses one of the choices, if there are any. -/
theorem choiceAt?_some {choices : List String} (h : choices ≠ []) (pick : Int) :
    ∃ choice ∈ choices, choiceAt? choices pick = some choice := by
  have hlength : 0 < choices.length := List.length_pos_iff.2 h
  have hpick : (pick % choices.length).toNat < choices.length := by
    have hlow := Int.emod_nonneg pick (b := choices.length) (by omega)
    have hhigh := Int.emod_lt_of_pos pick (b := choices.length) (by omega)
    omega
  exact ⟨choices[(pick % choices.length).toNat], List.getElem_mem hpick,
    List.getElem?_eq_getElem hpick⟩

/-- A choice by chance is left without a handle if there are no choices, and else by the text of one
of them. -/
theorem chooseAtRandom_leaves {choices : List String} {variableName : Option String}
    (h : (chooseAtRandom choices variableName).run.run before = (.ok result, after)) :
    (choices = [] ∧ result.next = .leave none) ∨
      ∃ choice ∈ choices, ∃ text, renderTemplate before.env.vars choice = .ok text ∧
        result.next = .leave (some text) := by
  obtain ⟨vars, scene, hvars, hrest⟩ := run_bind_ok h
  obtain ⟨rfl, rfl⟩ := run_vars_ok hvars
  obtain ⟨texts, scene, htexts, hchosen⟩ := run_bind_ok hrest
  obtain ⟨hrender, rfl⟩ := run_lift_ok htexts
  obtain ⟨hlength, hall⟩ := mapM_renderTemplate_ok hrender
  split at hchosen
  · next hempty =>
    rw [List.isEmpty_iff.1 hempty] at hlength
    cases hchosen
    exact .inl ⟨List.length_eq_zero_iff.1 hlength.symm, rfl⟩
  · next hnonempty =>
    have hne : texts ≠ [] := fun he => hnonempty (List.isEmpty_iff.2 he)
    obtain ⟨pick, middle, -, hpicked⟩ := run_bind_ok hchosen
    obtain ⟨text, htext, hchoice⟩ := choiceAt?_some hne pick
    rw [hchoice] at hpicked
    obtain ⟨_, last, -, hlast⟩ := run_bind_ok hpicked
    cases hlast
    obtain ⟨choice, hc, hr⟩ := hall text htext
    exact .inr ⟨choice, hc, text, hr, rfl⟩

/-! ## All nodes -/

namespace NodeConfig

variable {vars : Object}

/-- A condition that is left in one of its ways allows this, unless it strays. -/
theorem condition_allows_iff {rules : List ConditionRule} {defaultHandle : String}
    (h : (∃ rule ∈ rules, handle = some rule.handle) ∨
      (firstRule? vars rules = .ok none ∧
        handle = some (if defaultHandle.isEmpty then falseHandle else defaultHandle))) :
    (condition rules defaultHandle).Allows handle ↔
      ¬ (condition rules defaultHandle).Strays vars handle := by
  have hallows : ∀ name, (condition rules defaultHandle).Allows (some name) ↔
      name ∈ rules.map (·.handle) ∨ name = defaultHandle := by
    intro name
    show (∃ known ∈ rules.map (·.handle) ++ [defaultHandle], some name = some known) ↔ _
    simp only [List.mem_append, List.mem_singleton, Option.some.injEq, exists_eq_right']
  constructor
  · rintro hallowed ⟨⟩
    -- the empty handle is allowed, but another one stands in for it
    next hno =>
      rcases (hallows _).1 hallowed with hrule | hempty
      · exact hno hrule
      · exact absurd hempty (by decide)
  · intro hno
    rcases h with ⟨rule, hrule, rfl⟩ | ⟨hnone, rfl⟩
    · exact (hallows _).2 (.inl (List.mem_map_of_mem hrule))
    · by_cases hempty : defaultHandle = ""
      · subst hempty
        exact (hallows _).2 (.inl (Decidable.not_not.1 fun hstray => hno (.standIn hnone hstray)))
      · have hd : defaultHandle.isEmpty = false := by simpa using hempty
        rw [hd]
        exact (hallows _).2 (.inr rfl)

/-- A choice by chance that is left in one of its ways allows this, unless it strays. -/
theorem randomChoice_allows_iff {choices : List String} {variableName : Option String}
    (h : (choices = [] ∧ handle = none) ∨
      ∃ choice ∈ choices, ∃ text, renderTemplate vars choice = .ok text ∧ handle = some text) :
    (randomChoice choices variableName).Allows handle ↔
      ¬ (randomChoice choices variableName).Strays vars handle := by
  have hallows : (randomChoice choices variableName).Allows handle ↔
      ∃ known ∈ choices, handle = some known := Iff.rfl
  rw [hallows]
  constructor
  · rintro ⟨known, hknown, rfl⟩ ⟨⟩
    next hno => exact hno hknown
  · intro hno
    rcases h with ⟨rfl, rfl⟩ | ⟨choice, hc, text, hr, rfl⟩
    · exact absurd (.noChoice variableName) hno
    · exact ⟨text, Decidable.not_not.1 fun hstray => hno (.rendered variableName hc hr hstray), rfl⟩

/-- What a kind of node is left by it allows, unless it strays. -/
theorem act_allows_iff {config : NodeConfig} {recipient : Recipient} {id : String}
    (h : (config.act recipient id).run.run before = (.ok result, after))
    (hl : result.next = .leave handle) :
    config.Allows handle ↔ ¬ config.Strays before.env.vars handle := by
  have hleads : config.Leads result.next := by
    have hends := config.act_ensures recipient id before
    rw [h] at hends
    cases hends with
    | gives result after hs hleads => exact hleads
  cases config with
  | condition rules defaultHandle =>
    refine condition_allows_iff ((branch_leaves h).imp ?_ (And.imp_right fun hnext => ?_))
    · rintro ⟨rule, hrule, hnext⟩
      exact ⟨rule, hrule, Next.leave.inj (hl.symm.trans hnext)⟩
    · exact Next.leave.inj (hl.symm.trans hnext)
  | randomChoice choices variableName =>
    refine randomChoice_allows_iff ((chooseAtRandom_leaves h).imp
      (And.imp_right fun hnext => Next.leave.inj (hl.symm.trans hnext)) ?_)
    rintro ⟨choice, hc, text, hr, hnext⟩
    exact ⟨choice, hc, text, hr, Next.leave.inj (hl.symm.trans hnext)⟩
  | loop plan =>
    have hends := runLoop_leaves id plan before
    rw [show (runLoop id plan).run.run before = _ from h] at hends
    cases hends with
    | gives result after hs hleaves =>
      refine ⟨fun _ hstrays => (nomatch hstrays), fun _ => ?_⟩
      rcases hleaves with hnext | hnext
      · exact ⟨_, List.mem_cons_self, Next.leave.inj (hl.symm.trans hnext)⟩
      · exact ⟨_, List.mem_cons_of_mem _ List.mem_cons_self,
          Next.leave.inj (hl.symm.trans hnext)⟩
  | waitForReply expected variableName | finish kind =>
    rw [hl] at hleads
    cases hleads
  | delay seconds =>
    obtain ⟨moment, hwait⟩ := hleads
    rw [hl] at hwait
    cases hwait
  | _ =>
    rw [hl] at hleads
    cases hleads
    exact ⟨fun _ hstrays => (nomatch hstrays), fun _ => rfl⟩

end NodeConfig

/-- **A node keeps to what it says** about its handles, unless it strays: if it can be read, its
work succeeds and the walk goes on, then it is left by a handle that it allows, or by none if it
does not branch. -/
theorem FlowNode.allows_iff_not_strays {node : FlowNode} {config : NodeConfig}
    (hc : node.configured? = some config) {recipient : Recipient}
    (h : (node.act recipient).run.run before = (.ok result, after))
    (hl : result.next = .leave handle) :
    config.Allows handle ↔ ¬ config.Strays before.env.vars handle := by
  rw [FlowNode.act_of_configured recipient hc] at h
  exact NodeConfig.act_allows_iff h hl

/-! ## Plain handles -/

/-- A text without opening braces renders to itself. -/
theorem renderTemplate_of_not_mem (vars : Object) {text : String}
    (h : openBrace ∉ text.toList) : renderTemplate vars text = .ok text :=
  renderTemplate_bare fun _ _ hin => h (hin.subset (by simp [openBraces]))

/-- Whether the handles of a node are plain: the default handle of a condition is not empty, and the
choices of a choice by chance are there and no templates. -/
def NodeConfig.IsPlain : NodeConfig → Prop
  | .condition _ defaultHandle => defaultHandle ≠ ""
  | .randomChoice choices _ => choices ≠ [] ∧ ∀ choice ∈ choices, openBrace ∉ choice.toList
  | _ => True

/-- A node whose handles are plain does not stray. -/
theorem NodeConfig.IsPlain.not_strays {config : NodeConfig} (h : config.IsPlain) (vars : Object)
    (handle : Option String) : ¬ config.Strays vars handle := by
  intro hstrays
  cases hstrays with
  | standIn hnone hno => exact h rfl
  | noChoice variableName => exact h.1 rfl
  | rendered variableName hc hr hno =>
    rw [renderTemplate_of_not_mem vars (h.2 _ hc)] at hr
    cases hr
    exact hno hc

/-! ## A condition that strays -/

/-- A scene in which nothing is known. -/
def bareScene : Scene := ⟨.ofVariables [], ⟨⟨⟨0⟩, none⟩, .fresh [], .fresh [], [], .empty⟩⟩

/-- Someone to serve. -/
def someRecipient : Recipient := ⟨"x", some "c", ⟨none, none⟩⟩

/-- A condition without rules and with the usual default handle keeps to what it says. -/
theorem FlowNode.allows_iff_not_strays_usual :
    let node : FlowNode := ⟨"c", "condition", .null⟩
    node.configured? = some (.condition [] "false") ∧
      (NodeConfig.condition [] "false").Allows (some "false") := by
  intro node
  have hc : node.configured? = some (.condition [] "false") := by rfl
  have hrun : (node.act someRecipient).run.run bareScene =
      (.ok ⟨.leave (some "false"), [("matched", .null)]⟩, bareScene) := by rfl
  have hplain : (NodeConfig.condition [] "false").IsPlain := show "false" ≠ "" by decide
  exact ⟨hc, (FlowNode.allows_iff_not_strays hc hrun rfl).2 (hplain.not_strays _ _)⟩

/-- A condition whose default handle is empty is left by a handle that it does not allow. The edge
along which the walk would go on keeps the flow from being published. -/
theorem emptyDefault_strays :
    let node : FlowNode := ⟨"c", "condition", .object [("defaultHandle", .text "")]⟩
    let graph : FlowGraph := ⟨[⟨"t", "trigger", .null⟩, node, ⟨"e", "end", .null⟩],
      [⟨"t", "c", none, 0⟩, ⟨"c", "e", some "false", 1⟩]⟩
    node.configured? = some (.condition [] "") ∧
      (node.act someRecipient).run.run bareScene =
        (.ok ⟨.leave (some "false"), [("matched", .null)]⟩, bareScene) ∧
      ¬ (NodeConfig.condition [] "").Allows (some "false") ∧
      graph.defects = [.impossibleHandle "c" "condition" (some "false") [""]] := by
  refine ⟨by rfl, by rfl, ?_, by decide +kernel⟩
  rintro ⟨name, hname, hhandle⟩
  cases hhandle
  exact absurd hname (by decide)

end ChatFlow

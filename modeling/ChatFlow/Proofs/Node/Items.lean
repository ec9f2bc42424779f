import ChatFlow.Proofs.Node.Rounds
import ChatFlow.Proofs.Value.Pairs

/-!
# Working on the item of a loop

A loop through a list hands out the items themselves. So a node that is visited later in the same
walk, and assigns below the item's variable, changes the list as well: the item of the round is
replaced by what is then read in the variable, and nothing else in the list changes. If the walk was
suspended in between, the item is a copy, and the list stays as it was.

Main statement: `FlowNode.works_on_listed_item`.
-/

namespace ChatFlow

/-! ## What work preserves -/

namespace Act

variable {α β : Type} {P : Env → Prop}

/-- Whether work keeps a property of the variables, also if it fails. -/
def Preserves (act : Act α) (P : Env → Prop) : Prop :=
  ∀ scene, P scene.env → P (act.run.run scene).2.env

theorem preserves_pure (a : α) : (pure a : Act α).Preserves P := fun _ h => h

theorem preserves_vars : vars.Preserves P := fun _ h => h

theorem preserves_lift (result : Except Fault α) : (liftM result : Act α).Preserves P := by
  intro scene h
  rwa [run_lift]

theorem preserves_changeEnv {change : Env → Env} (h : ∀ env, P env → P (change env)) :
    (changeEnv change).Preserves P :=
  fun scene hscene => h scene.env hscene

theorem Preserves.bind {act : Act α} {next : α → Act β} (h : act.Preserves P)
    (hnext : ∀ a, (next a).Preserves P) : (act >>= next).Preserves P := by
  intro scene hscene
  have hfirst := h scene hscene
  rw [run_bind]
  generalize act.run.run scene = ended at hfirst
  rcases ended with ⟨_ | a, after⟩
  · exact hfirst
  · exact hnext a after hfirst

end Act

open Act

/-- Assignments keep what writing at their paths keeps. -/
theorem assignAll_preserves {P : Env → Prop} {assignments : List Assignment}
    (h : ∀ assignment ∈ assignments, ∀ env, P env → ∀ value,
      P (env.write assignment.variableName value)) :
    (assignAll assignments).Preserves P := by
  refine Preserves.bind ?_ fun _ => preserves_pure _
  induction assignments with
  | nil => exact preserves_pure _
  | cons assignment rest ih =>
    refine Preserves.bind ?_ fun _ => ih fun other hother => h other (List.mem_cons_of_mem _ hother)
    refine preserves_vars.bind fun vars => (preserves_lift _).bind fun value => ?_
    exact preserves_changeEnv fun env henv => h assignment List.mem_cons_self env henv value

/-! ## Handing out an item -/

namespace LoopPlan

/-- Whether a loop is about to hand out an object of the list at a path to a variable. The list is
in another variable than this one, and than the two that the loop counts in. No object on the way to
the item's variable is found elsewhere, and none in the list but under this variable, where the item
of the round before can be; of variables as they were stored this is true. -/
structure HandsOut (plan : LoopPlan) (id collection path : String) (items : List Value) (n : Nat)
    (fields : Object) (env : Env) : Prop where
  through : plan.collection = some collection
  target : plan.itemVariable = some path
  apart : firstSegment path ≠ firstSegment collection
  notIndex : firstSegment collection ≠ "loop_index"
  notCounter : firstSegment collection ≠ loopCounter id
  notCounterWhole : trim collection ≠ loopCounter id
  room : plan.HasRoom env
  lone : env.IsLone (Path.place (Path.ofText path)) (env.placeOf collection)
  counter : ((env.vars.field? (loopCounter id)).getD (.int 0)).toWhole = .ok (n : Int)
  list : env.vars.read? collection = .ok (some (.list items))
  item : items[n]? = some (.object fields)

variable {plan : LoopPlan} {id collection path : String} {items : List Value} {n : Nat}
  {fields : Object} {env : Env}

namespace HandsOut

variable (h : plan.HandsOut id collection path items n fields env)
include h

/-- The list lies in another variable than the item's, and than those that the loop counts in. -/
theorem exists_placeOf_eq : ∃ name rest, env.placeOf collection = .field name :: rest ∧
    firstSegment path ≠ name ∧ loopCounter id ≠ name ∧ "loop_index" ≠ name := by
  obtain ⟨name, rest, hplace, hname⟩ := env.exists_placeOf_eq collection
  refine ⟨name, rest, hplace, ?_⟩
  rcases hname with hname | hname <;> rw [hname]
  · exact ⟨h.apart, h.notCounter.symm, h.notIndex.symm⟩
  · exact ⟨(trim_ne_firstSegment h.apart.symm).symm, h.notCounterWhole.symm,
      (trim_ne (by decide) h.notIndex).symm⟩

/-- The item is handed out. -/
theorem isHandedOut_handOut : (plan.handOut items n env).IsHandedOut
    (Path.place (Path.ofText path)) (env.placeOf collection) items n fields := by
  obtain ⟨name, rest, hplace, hfirst, -, -⟩ := h.exists_placeOf_eq
  obtain ⟨later, hsegments, -⟩ := Path.ofText_spec path
  have hlist := Env.part?_placeOf h.list
  have hown := h.room.owns path h.target
  have hlone := h.lone
  rw [handOut, h.through, h.target, h.item]
  dsimp only
  rw [Env.writeSame]
  rw [hplace] at hlist hlone ⊢
  rw [hsegments] at hown hlone ⊢
  exact Env.isHandedOut_assign hown hfirst hlone hlist h.item

theorem items_eq : plan.items env.vars = .ok items := by
  rw [LoopPlan.items, h.through]
  dsimp only
  rw [listAt, Object.read, h.list]
  rfl

theorem place_apart : (Path.place (Path.ofText path)).Apart (env.placeOf collection) := by
  obtain ⟨name, rest, hplace, hfirst, -, -⟩ := h.exists_placeOf_eq
  exact hplace ▸ Path.place_apart hfirst rest

/-- The item is handed out still after the round was counted. -/
theorem isHandedOut_count (hcounter : firstSegment path ≠ loopCounter id)
    (hindex : firstSegment path ≠ "loop_index") (round : Nat) :
    (plan.count id items round (plan.handOut items n env)).IsHandedOut
      (Path.place (Path.ofText path)) (env.placeOf collection) items n fields := by
  obtain ⟨name, rest, hplace, -, hcounterName, hindexName⟩ := h.exists_placeOf_eq
  obtain ⟨later, hsegments, -⟩ := Path.ofText_spec path
  have hrooted : (plan.handOut items n env).IsRooted := h.room.handOut.rooted
  have hhanded := h.isHandedOut_handOut
  rw [hplace, hsegments, Path.place_cons] at hhanded ⊢
  have hput := hrooted.put (loopCounter id) (.int round)
  have hcounted :=
    (hhanded.putInt hrooted (.field_cons hcounter.symm _) (.field_cons hcounterName _) round).putInt
      hput (.field_cons hindex.symm _) (.field_cons hindexName _) round
  unfold count
  split
  · exact hcounted
  · exact hcounted.remove (.field_cons hcounter.symm _) (.field_cons hcounterName _)

/-- A round changes the item's variable and those that the loop counts in. -/
theorem field?_count {name : String} (hname : firstSegment path ≠ name)
    (hcounter : name ≠ loopCounter id) (hindex : name ≠ "loop_index") (round : Nat) :
    (plan.count id items round (plan.handOut items n env)).vars.field? name =
      env.vars.field? name := by
  refine (field?_count_of_ne h.room.handOut.rooted hcounter hindex).trans ?_
  refine h.room.field?_handOut fun other hother => ?_
  obtain rfl := Option.some.inj (h.target.symm.trans hother)
  exact hname

/-- The list is read after the round. -/
theorem read?_count (round : Nat) :
    (plan.count id items round (plan.handOut items n env)).vars.read? collection =
      .ok (some (.list items)) := by
  rw [← h.list]
  refine Object.read?_congr ?_ ?_
  · exact h.field?_count h.apart h.notCounter h.notIndex round
  · exact h.field?_count (trim_ne_firstSegment h.apart.symm).symm h.notCounterWhole
      (trim_ne (by decide) h.notIndex) round

end HandsOut

/-- Nothing is shared in the variables that a loop counts in. -/
theorem owns_count (h : env.IsRooted) {name : String}
    (hname : name = loopCounter id ∨ name = "loop_index") (round : Nat) (later : Path) :
    (plan.count id items round env).Owns (name :: later) := by
  have hput := h.put (loopCounter id) (.int round)
  have hcounted : ((env.put (loopCounter id) (.int round)).put "loop_index"
      (.int round)).Owns (name :: later) := by
    refine (hput.put _ _).owns_of_not_isShared (fun place hshared => ?_) later
    obtain ⟨hbefore, hindex⟩ := hput.isShared_put hshared
    obtain ⟨-, hcounter⟩ := h.isShared_put hbefore
    rcases hname with rfl | rfl
    · exact hcounter
    · exact hindex
  unfold count
  split
  · exact hcounted
  · exact hcounted.remove _

end LoopPlan

/-! ## Working below a path -/

/-- Whether assignments are made below a path only. -/
def AssignBelow (assignments : List Assignment) (path : String) : Prop :=
  ∀ assignment ∈ assignments, ∃ rest, rest ≠ [] ∧
    Path.ofText assignment.variableName = Path.ofText path ++ rest

section

variable {assignments : List Assignment} {path : String} {scene : Scene}

/-- **Work below a variable that shares nothing** changes no other variable. -/
theorem assignAll_field?_of_owns (hbelow : AssignBelow assignments path)
    (hown : ∀ later, scene.env.Owns (firstSegment path :: later)) {name : String}
    (hname : firstSegment path ≠ name) :
    ((assignAll assignments).run.run scene).2.env.vars.field? name =
      scene.env.vars.field? name := by
  refine (assignAll_preserves (P := fun env => (∀ later, env.Owns (firstSegment path :: later)) ∧
    env.vars.field? name = scene.env.vars.field? name) (fun assignment hmem env henv value => ?_)
      scene ⟨hown, rfl⟩).2
  obtain ⟨hpreserved, hfield⟩ := henv
  obtain ⟨rest, -, hpath⟩ := hbelow assignment hmem
  obtain ⟨later, hsegments, -⟩ := Path.ofText_spec path
  rw [Env.write, hpath, hsegments, List.cons_append]
  have hwrite := hpreserved (later ++ rest)
  refine ⟨fun other front below hbelow heq hshared => ?_, ?_⟩
  · exact hpreserved other front below hbelow heq
      (hwrite.isShared_of_assign_new (List.cons_ne_nil _ _) hshared)
  · exact (hwrite.field?_assign_of_ne hname value none).trans hfield

/-- **Work below the variable of an item** works on the item in the list. -/
theorem assignAll_isHandedOut {list : Place} {items : List Value} {n : Nat} {item : Object}
    (hbelow : AssignBelow assignments path) (hapart : (Path.place (Path.ofText path)).Apart list)
    (h : scene.env.IsHandedOut (Path.place (Path.ofText path)) list items n item) :
    (∃ item', ((assignAll assignments).run.run scene).2.env.IsHandedOut
      (Path.place (Path.ofText path)) list items n item') ∧
    ∀ place, (Path.place (Path.ofText path)).Apart place → list.Apart place →
      (Value.object ((assignAll assignments).run.run scene).2.env.vars).part? place =
        (Value.object scene.env.vars).part? place := by
  refine assignAll_preserves (P := fun env =>
    (∃ item', env.IsHandedOut (Path.place (Path.ofText path)) list items n item') ∧
      ∀ place, (Path.place (Path.ofText path)).Apart place → list.Apart place →
        (Value.object env.vars).part? place = (Value.object scene.env.vars).part? place)
    (fun assignment hmem env henv value => ?_) scene ⟨⟨item, h⟩, fun _ _ _ => rfl⟩
  obtain ⟨⟨before, hbefore⟩, hkept⟩ := henv
  obtain ⟨rest, hrest, hpath⟩ := hbelow assignment hmem
  obtain ⟨after, -, hafter, hsame⟩ :=
    hbefore.assign hapart (Path.ofText_ne_nil path) hrest value
  rw [Env.write, hpath]
  exact ⟨⟨after, hafter⟩, fun place hhere hlist => (hsame place hhere hlist).trans
    (hkept place hhere hlist)⟩

end

/-- The scene that is left when a node has done its work. -/
def FlowNode.after (node : FlowNode) (recipient : Recipient) (scene : Scene) : Scene :=
  ((node.act recipient).run.run scene).2

/-- The scene in which a walk goes on whose variables were stored. -/
def Scene.reloaded (scene : Scene) : Scene :=
  { scene with env := .ofVariables scene.env.vars }

/-- **The item of a loop is the one in the list.** Let a loop node hand out an object of a list, and
let an assigning node make its assignments below the item's variable. After the loop the list is
read as before. After both nodes, the object's place in the list is taken by what is then read in
the variable, and the rest of the list is as it was; and so is the whole list if the variable is one
that the loop counts in, since this takes the item out of it. If the walk was suspended between the
two nodes and its variables were stored, the list is as it was in any case. -/
theorem FlowNode.works_on_listed_item {loop work : FlowNode} {plan : LoopPlan}
    {assignments : List Assignment} {collection path : String} {items : List Value} {n : Nat}
    {fields : Object} {scene : Scene} (hloop : loop.configured? = some (.loop plan))
    (hwork : work.configured? = some (.setVariable assignments))
    (hbelow : AssignBelow assignments path)
    (h : plan.HandsOut loop.id collection path items n fields scene.env) (recipient : Recipient) :
    let handed := loop.after recipient scene
    handed.env.vars.read? collection = .ok (some (.list items)) ∧
    (∃ item, (work.after recipient handed).env.vars.read? collection =
        .ok (some (.list (items.set n (.object item)))) ∧
      if firstSegment path = loopCounter loop.id ∨ firstSegment path = "loop_index" then
        item = fields
      else (work.after recipient handed).env.vars.read? path = .ok (some (.object item))) ∧
    (work.after recipient handed.reloaded).env.vars.read? collection =
      .ok (some (.list items)) := by
  intro handed
  have hafter : ∀ before,
      work.after recipient before = ((assignAll assignments).run.run before).2 := by
    intro before
    rw [after, act_of_configured recipient hwork]
    rfl
  have hhanded : handed = { scene with
      env := plan.count loop.id items (n + 1) (plan.handOut items n scene.env) } := by
    show loop.after recipient scene = _
    rw [after, act_of_configured recipient hloop]
    exact congrArg Prod.snd (run_runLoop h.counter h.items_eq)
  have hread : handed.env.vars.read? collection = .ok (some (.list items)) := by
    rw [hhanded]
    exact h.read?_count (n + 1)
  have hunshared : ∀ before : Scene, (∀ later, before.env.Owns (firstSegment path :: later)) →
      (work.after recipient before).env.vars.read? collection =
        before.env.vars.read? collection := by
    intro before hown
    rw [hafter]
    exact Object.read?_congr (assignAll_field?_of_owns hbelow hown h.apart)
      (assignAll_field?_of_owns hbelow hown (trim_ne_firstSegment h.apart.symm).symm)
  refine ⟨hread, ?_, (hunshared handed.reloaded fun later => Env.owns_ofVariables _ _).trans hread⟩
  by_cases hcounts : firstSegment path = loopCounter loop.id ∨ firstSegment path = "loop_index"
  · refine ⟨fields, ?_, by rw [if_pos hcounts]⟩
    have hown : ∀ later, handed.env.Owns (firstSegment path :: later) := by
      rw [hhanded]
      exact LoopPlan.owns_count h.room.handOut.rooted hcounts (n + 1)
    rw [Value.set_of_getElem? h.item]
    exact (hunshared handed hown).trans hread
  · obtain ⟨hcounter, hindex⟩ := not_or.1 hcounts
    have hout : handed.env.IsHandedOut (Path.place (Path.ofText path))
        (scene.env.placeOf collection) items n fields := by
      rw [hhanded]
      exact h.isHandedOut_count hcounter hindex (n + 1)
    have hfirst : handed.env.vars.field? (firstSegment collection) =
        scene.env.vars.field? (firstSegment collection) := by
      rw [hhanded]
      exact h.field?_count h.apart h.notCounter h.notIndex (n + 1)
    obtain ⟨⟨item, hitem⟩, hkept⟩ := assignAll_isHandedOut hbelow h.place_apart hout
    rw [hafter]
    refine ⟨item, Env.read?_of_part? h.list (fun hlist => ?_) hitem.listed, ?_⟩
    · -- the list is in the variable of the whole path, and that of the first segment is left alone
      have hsame := hkept _ (Path.place_apart h.apart []) hlist.symm
      rw [Value.part?_field, Value.part?_field] at hsame
      exact hsame.trans hfirst
    · rw [if_neg hcounts]
      have hne : path ≠ "" := fun hempty => itemVariable_ne_empty hloop (hempty ▸ h.target)
      exact Object.read?_of_at? hne
        ((Object.at?_eq_part? _ (Path.ofText_ne_nil path)).trans hitem.found)

/-- A node that assigns a text. -/
def assigningNode (path text : String) : FlowNode where
  id := "s"
  type := "setVariable"
  config := .object [("assignments", .list [.object [("variableName", .text path),
    ("value", .text text)]])]

/-- An order in a state. -/
def orderIn (state : String) : Value := .object [("id", .int 7), ("state", .text state)]

/-- A scene with a list of two orders. -/
def ordersScene : Scene :=
  { bareScene with
    env := .ofVariables [("shop", .object [("orders", .list [orderIn "new", orderIn "paid"])])] }

/-- The first of two orders is worked on in a variable below another one. -/
theorem FlowNode.works_on_listed_item_order :
    let work := assigningNode "current.order.state.name" "{{shop.orders.1.state}}"
    let handed := (loopThrough "shop.orders" "current.order").after someRecipient ordersScene
    (∃ item, (work.after someRecipient handed).env.vars.read? "shop.orders" =
        .ok (some (.list [.object item, orderIn "paid"])) ∧
      (work.after someRecipient handed).env.vars.read? "current.order" =
        .ok (some (.object item))) ∧
    (work.after someRecipient handed.reloaded).env.vars.read? "shop.orders" =
      .ok (some (.list [orderIn "new", orderIn "paid"])) := by
  dsimp only
  let plan : LoopPlan := ⟨some "shop.orders", some "current.order", 10⟩
  have hloop : (loopThrough "shop.orders" "current.order").configured? = some (.loop plan) := by rfl
  have hwork : (assigningNode "current.order.state.name"
      "{{shop.orders.1.state}}").configured? = some (.setVariable
      [⟨"current.order.state.name", false, .text "{{shop.orders.1.state}}"⟩]) := by rfl
  have hbelow : AssignBelow [⟨"current.order.state.name", false,
      .text "{{shop.orders.1.state}}"⟩] "current.order" := by
    intro assignment hmem
    rw [List.mem_singleton.1 hmem]
    exact ⟨["state", "name"], by decide, by cbv⟩
  have hhands : plan.HandsOut "l" "shop.orders" "current.order"
      [orderIn "new", orderIn "paid"] 0 [("id", .int 7), ("state", .text "new")]
      ordersScene.env := by
    refine ⟨rfl, rfl, by decide, by decide, by decide, by decide, ⟨?_, ?_⟩, ?_, ?_, by cbv, rfl⟩
    · exact Env.not_isShared_of_nil rfl []
    · exact fun _ _ => Env.owns_ofVariables _ _
    · exact Env.isLone_ofVariables _ _ _
    · exact Value.toWhole_int (Nat.zero_le _)
  obtain ⟨-, ⟨item, hlist, hitem⟩, hreloaded⟩ :=
    works_on_listed_item hloop hwork hbelow hhands someRecipient
  rw [if_neg (by decide)] at hitem
  have hset : [orderIn "new", orderIn "paid"].set 0 (.object item) =
      [.object item, orderIn "paid"] := rfl
  rw [hset] at hlist
  exact ⟨⟨item, hlist, hitem⟩, hreloaded⟩

/-- A scene with a list of one order. -/
def orderScene : Scene :=
  { bareScene with env := .ofVariables [("orders", .list [orderIn "new"])] }

/-- **A list that is changed through the item of a loop.** The list is another one after a text was
assigned to a field of the item. If the variables are stored in between, it stays as it was. -/
theorem listed_item_changed :
    let loop := loopThrough "orders" "order"
    let work := assigningNode "order.state" "done"
    let handed := loop.after someRecipient orderScene
    loop.configured? = some (.loop ⟨some "orders", some "order", 10⟩) ∧
      work.configured? = some (.setVariable [⟨"order.state", false, .text "done"⟩]) ∧
      orderScene.env.vars.read? "orders" = .ok (some (.list [orderIn "new"])) ∧
      (work.after someRecipient handed).env.vars.read? "orders" =
        .ok (some (.list [orderIn "done"])) ∧
      (work.after someRecipient handed.reloaded).env.vars.read? "orders" =
        .ok (some (.list [orderIn "new"])) := by
  dsimp only
  let plan : LoopPlan := ⟨some "orders", some "order", 10⟩
  have hloop : (loopThrough "orders" "order").configured? = some (.loop plan) := by rfl
  have hwork : (assigningNode "order.state" "done").configured? =
      some (.setVariable [⟨"order.state", false, .text "done"⟩]) := by rfl
  have hhanded : (loopThrough "orders" "order").after someRecipient orderScene = { orderScene with
      env := plan.count "l" [orderIn "new"] 1
        (plan.handOut [orderIn "new"] 0 orderScene.env) } := by
    have hcounter : ((orderScene.env.vars.field? (loopCounter "l")).getD (.int 0)).toWhole =
        .ok ((0 : Nat) : Int) := Value.toWhole_int (Nat.zero_le _)
    have hitems : plan.items orderScene.env.vars = .ok [orderIn "new"] := by cbv
    rw [FlowNode.after, FlowNode.act_of_configured _ hloop]
    exact congrArg Prod.snd (run_runLoop hcounter hitems)
  have hassign : ∀ before, (assigningNode "order.state" "done").after someRecipient before =
      ((assignAll [⟨"order.state", false, .text "done"⟩]).run.run before).2 := by
    intro before
    rw [FlowNode.after, FlowNode.act_of_configured _ hwork]
    rfl
  rw [hhanded, hassign, hassign]
  refine ⟨hloop, hwork, ?_, ?_, ?_⟩
  · cbv
  · cbv
  · cbv

end ChatFlow

import Mathlib
import ChatFlow.Proofs.Flow.Published
import ChatFlow.Proofs.Node.Handles
import ChatFlow.Proofs.Value.Parts

/-!
# The rounds of a loop

A loop that is visited again and again counts its rounds. How many there are is known beforehand
(`LoopPlan.rounds`): the limit of the loop, no more than there are items if it goes through a list,
and at least one. Every visit is the next round, and the visit after the last is the first again.

Between two visits the walk may change whatever it likes but the counter and the list. Within a
visit the loop itself must not change its list: the variable of the item is another one, and the
object that it is put into is found nowhere else (`LoopPlan.HasRoom`). A loop hands out the items
themselves and no copies, so a list that can be reached through the item's variable as well is
overwritten by the first item (`miscounted_loops`).

Main statement: `FlowNode.counts_rounds`.
-/

namespace ChatFlow

/-! ## Reading lists -/

/-- The list at a path depends on the variable that the first segment names, and on whether the
variable that the whole path names holds a list. -/
theorem listAt_congr {fields fields' : Object} {path : String}
    (hfirst : fields.field? (firstSegment path) = fields'.field? (firstSegment path))
    (hwhole : (fields.field? (trim path)).bind Value.list? =
      (fields'.field? (trim path)).bind Value.list?) :
    listAt fields path = listAt fields' path := by
  obtain ⟨rest, hpath, -⟩ := Path.ofText_spec path
  unfold listAt Object.read Object.read?
  split
  · rfl
  · rw [hpath, Object.walk_congr hfirst]
    cases (Value.object fields').walk (firstSegment path :: rest) with
    | error fault => rfl
    | ok found? =>
      cases found? with
      | some found => rfl
      | none =>
        have hlist : ∀ value? : Option Value, (value?.getD .null).list? = value?.bind Value.list? :=
          fun value? => by cases value? <;> rfl
        show Except.ok ((((fields.field? (trim path)).getD .null).list?).getD []) =
          Except.ok ((((fields'.field? (trim path)).getD .null).list?).getD [])
        rw [hlist, hlist, hwhole]

/-! ## One round -/

namespace LoopPlan

/-- The list that a loop goes through, the empty one if it goes through none. -/
def items (plan : LoopPlan) (vars : Object) : Except Fault (List Value) :=
  match plan.collection with
  | none => .ok []
  | some collection => listAt vars collection

/-- The round after which a loop is left, if it has come so far. -/
def last (plan : LoopPlan) (items : List Value) : Int :=
  match plan.collection with
  | none => plan.maxIterations
  | some _ => min plan.maxIterations items.length

/-- The number of rounds of a loop. -/
def rounds (plan : LoopPlan) (items : List Value) : Nat :=
  (max 1 (plan.last items)).toNat

variable {plan : LoopPlan} {id : String} {items : List Value} {env : Env} {n : Nat}

theorem rounds_pos (plan : LoopPlan) (items : List Value) : 0 < plan.rounds items := by
  unfold rounds
  omega

/-- A round is before the last one if and only if more rounds are to come. -/
theorem lt_last_iff : ((n + 1 : Nat) : Int) < plan.last items ↔ n + 1 < plan.rounds items := by
  unfold rounds
  omega

/-- Whether the variables of a loop do not get in each other's way. -/
structure Separate (plan : LoopPlan) (id : String) : Prop where
  item : ∀ path, plan.itemVariable = some path →
    firstSegment path ≠ loopCounter id ∧ firstSegment path ≠ "loop_index" ∧
      ∀ collection, plan.collection = some collection →
        firstSegment path ≠ firstSegment collection
  collection : ∀ collection, plan.collection = some collection →
    firstSegment collection ≠ loopCounter id ∧ firstSegment collection ≠ "loop_index"

/-- Whether the object into which a loop puts its items is found nowhere else. -/
structure HasRoom (plan : LoopPlan) (env : Env) : Prop where
  rooted : env.IsRooted
  owns : ∀ path, plan.itemVariable = some path → env.Owns (Path.ofText path)

/-- Hands out the item of a round. -/
def handOut (plan : LoopPlan) (items : List Value) (n : Nat) (env : Env) : Env :=
  match plan.collection, plan.itemVariable, items[n]? with
  | some collection, some path, some item =>
    env.writeSame path item (env.placeOf collection ++ [.item n])
  | _, _, _ => env

/-- Counts a round. -/
def count (plan : LoopPlan) (id : String) (items : List Value) (round : Nat) (env : Env) : Env :=
  let counted := (env.put (loopCounter id) (.int round)).put "loop_index" (.int round)
  if round < plan.rounds items then counted else counted.remove (loopCounter id)

/-- The handle by which a loop is left after a round. -/
def handle (plan : LoopPlan) (items : List Value) (round : Nat) : String :=
  if round < plan.rounds items then loopHandle else completeHandle

end LoopPlan

theorem loopCounter_ne_index (id : String) : loopCounter id ≠ "loop_index" := by
  intro h
  have hlist := congrArg String.toList h
  simp [loopCounter] at hlist

theorem Value.toWhole_int {n : Nat} (h : n ≤ exactFloatSize) :
    (Value.int n).toWhole = .ok (n : Int) :=
  if_pos h

/-- The item of a round in which there is one. -/
theorem roundItem?_succ (items : List Value) (n : Nat) :
    roundItem? items ((n + 1 : Nat) : Int) = .ok (items[n]?.map (n, ·)) := by
  have hindex : ((n + 1 : Nat) : Int) - 1 = Int.ofNat n := Int.add_sub_cancel n 1
  unfold roundItem?
  split
  · next h =>
    rw [List.getElem?_eq_none (by omega)]
    rfl
  · rw [if_neg (by omega), hindex]

theorem run_handOutItem (collection path : String) (items : List Value) (n : Nat) (scene : Scene) :
    (handOutItem collection path items ((n + 1 : Nat) : Int)).run.run scene =
      (.ok (), match items[n]? with
        | some item =>
          { scene with
            env := scene.env.writeSame path item (scene.env.placeOf collection ++ [.item n]) }
        | none => scene) := by
  rw [handOutItem, Act.run_bind, Act.run_liftFailure, roundItem?_succ]
  cases items[n]? <;> rfl

theorem run_countRound (plan : LoopPlan) (id : String) (items : List Value) (n : Nat)
    (scene : Scene) :
    (countRound id ((n + 1 : Nat) : Int) (plan.last items)).run.run scene =
      (.ok ⟨.leave (plan.handle items (n + 1)), [("iteration", .int (n + 1 : Nat))]⟩,
        { scene with env := plan.count id items (n + 1) scene.env }) := by
  unfold countRound LoopPlan.handle LoopPlan.count
  by_cases h : n + 1 < plan.rounds items
  · simp only [LoopPlan.lt_last_iff, if_pos h]
    rfl
  · simp only [LoopPlan.lt_last_iff, if_neg h]
    rfl

/-- **A visit of a loop** is the round after those that were counted. -/
theorem run_runLoop {plan : LoopPlan} {id : String} {items : List Value} {n : Nat} {scene : Scene}
    (hcounter : ((scene.env.vars.field? (loopCounter id)).getD (.int 0)).toWhole = .ok (n : Int))
    (hitems : plan.items scene.env.vars = .ok items) :
    (runLoop id plan).run.run scene =
      (.ok ⟨.leave (plan.handle items (n + 1)), [("iteration", .int (n + 1 : Nat))]⟩,
        { scene with env := plan.count id items (n + 1) (plan.handOut items n scene.env) }) := by
  unfold runLoop
  rw [Act.run_bind, Act.run_vars]
  dsimp only
  rw [Act.run_bind, Act.run_lift, hcounter]
  unfold LoopPlan.items at hitems
  have hround : (n : Int) + 1 = ((n + 1 : Nat) : Int) := rfl
  cases hcollection : plan.collection with
  | none =>
    have hlast : plan.maxIterations = plan.last items := by rw [LoopPlan.last, hcollection]
    have hidle : plan.handOut items n scene.env = scene.env := by
      rw [LoopPlan.handOut, hcollection]
    rw [hidle, ← run_countRound, ← hlast]
    rfl
  | some collection =>
    have hlist : listAt scene.env.vars collection = .ok items := by
      rw [← hitems, hcollection]
    have hlast : min plan.maxIterations items.length = plan.last items := by
      rw [LoopPlan.last, hcollection]
    simp only [Except.mapError]
    rw [Act.run_bind, Act.run_lift, hlist]
    simp only [Except.mapError, hlast, hround]
    cases hpath : plan.itemVariable with
    | none =>
      have hidle : plan.handOut items n scene.env = scene.env := by
        rw [LoopPlan.handOut, hcollection, hpath]
      rw [hidle, ← run_countRound]
    | some path =>
      have hhand : (handOutItem collection path items ((n + 1 : Nat) : Int)).run.run scene =
          (.ok (), { scene with env := plan.handOut items n scene.env }) := by
        rw [run_handOutItem, LoopPlan.handOut, hcollection, hpath]
        cases items[n]? <;> rfl
      simp only [Act.run_bind, hhand, run_countRound]

/-- A visit of a loop whose list cannot be read fails, and leaves everything as it is. -/
theorem run_runLoop_unreadable {plan : LoopPlan} {id : String} {n : Nat} {fault : Fault}
    {scene : Scene}
    (hcounter : ((scene.env.vars.field? (loopCounter id)).getD (.int 0)).toWhole = .ok (n : Int))
    (hitems : plan.items scene.env.vars = .error fault) :
    (runLoop id plan).run.run scene = (.error (.fault fault), scene) := by
  unfold runLoop
  rw [Act.run_bind, Act.run_vars]
  dsimp only
  rw [Act.run_bind, Act.run_lift, hcounter]
  unfold LoopPlan.items at hitems
  cases hcollection : plan.collection with
  | none =>
    rw [hcollection] at hitems
    cases hitems
  | some collection =>
    have hlist : listAt scene.env.vars collection = .error fault := by
      rw [← hitems, hcollection]
    simp only [Except.mapError]
    rw [Act.run_bind, Act.run_lift, hlist]
    rfl

/-- The scenes in which the same work is done again and again, while nothing else happens. -/
def Act.visits (act : Act NodeResult) (scene : Scene) : Nat → Scene
  | 0 => scene
  | k + 1 => (act.run.run (act.visits scene k)).2

namespace LoopPlan

variable {plan : LoopPlan} {id name : String} {items : List Value} {env : Env} {n round : Nat}

/-- Either an item is handed out, or nothing happens. -/
theorem handOut_cases (plan : LoopPlan) (items : List Value) (n : Nat) (env : Env) :
    plan.handOut items n env = env ∨ ∃ collection path item, plan.itemVariable = some path ∧
      plan.handOut items n env =
        env.writeSame path item (env.placeOf collection ++ [.item n]) := by
  unfold handOut
  split
  · next collection path item _ hpath _ => exact .inr ⟨collection, path, item, hpath, rfl⟩
  · exact .inl rfl

namespace HasRoom

/-- There is still room after an item was handed out: it is shared at places in lists only. -/
theorem handOut (h : plan.HasRoom env) : plan.HasRoom (plan.handOut items n env) := by
  rcases plan.handOut_cases items n env with hsame | ⟨collection, path, item, hpath, hwrite⟩
  · rwa [hsame]
  · have hown := h.owns path hpath
    have hne := Path.ofText_ne_nil path
    rw [hwrite]
    refine ⟨h.rooted.assign hne (by simp), fun other hother => ?_⟩
    obtain rfl := Option.some.inj (hpath.symm.trans hother)
    refine hown.assign hown hne (fun rest heq => ?_) fun source hsource hprefix => ?_
    · exact List.append_right_eq_self.1 heq
    · obtain rfl := Option.some.inj hsource
      have hmem := hprefix.subset (List.mem_append_right _ (List.mem_singleton_self _))
      simp [Path.place] at hmem

/-- Handing out an item changes no variable but the item's. -/
theorem field?_handOut (h : plan.HasRoom env)
    (hname : ∀ path, plan.itemVariable = some path → firstSegment path ≠ name) :
    (plan.handOut items n env).vars.field? name = env.vars.field? name := by
  rcases plan.handOut_cases items n env with hsame | ⟨collection, path, item, hpath, hwrite⟩
  · rw [hsame]
  · obtain ⟨rest, hsegments, -⟩ := Path.ofText_spec path
    have hown := h.owns path hpath
    rw [hsegments] at hown
    rw [hwrite, Env.writeSame, hsegments]
    exact hown.field?_assign_of_ne (hname path hpath) item _

/-- The item is found in the item's variable. -/
theorem at?_handOut (h : plan.HasRoom env) {collection path : String} {item : Value}
    (hcollection : plan.collection = some collection) (hpath : plan.itemVariable = some path)
    (hitem : items[n]? = some item) :
    (plan.handOut items n env).vars.at? (Path.ofText path) = some item := by
  rw [LoopPlan.handOut, hcollection, hpath, hitem]
  exact ((h.owns path hpath).isWritten_assign (Path.ofText_ne_nil path) item _).found

/-- There is still room after a round was counted. -/
theorem count (h : plan.HasRoom env) (hsep : plan.Separate id) :
    plan.HasRoom (plan.count id items round env) := by
  have hcounter := h.rooted.put (loopCounter id) (.int round)
  have hcounted : plan.HasRoom
      ((env.put (loopCounter id) (.int round)).put "loop_index" (.int round)) := by
    refine ⟨hcounter.put _ _, fun path hpath => ?_⟩
    obtain ⟨rest, hsegments, -⟩ := Path.ofText_spec path
    obtain ⟨hne, hindex, -⟩ := hsep.item path hpath
    have hown := h.owns path hpath
    rw [hsegments] at hown ⊢
    exact hcounter.owns_put (h.rooted.owns_put hown hne.symm _) hindex.symm _
  unfold LoopPlan.count
  split
  · exact hcounted
  · exact ⟨hcounted.rooted.remove _, fun path hpath => (hcounted.owns path hpath).remove _⟩

end HasRoom

section Counting

variable (h : env.IsRooted)
include h

/-- Counting a round sets the index of the loop. -/
theorem field?_count_index :
    (plan.count id items round env).vars.field? "loop_index" = some (.int round) := by
  have hindex := (h.put (loopCounter id) (.int round)).field?_put_self "loop_index" (.int round)
  unfold count
  split
  · exact hindex
  · exact (Object.field?_remove_of_ne (loopCounter_ne_index id) _).trans hindex

/-- The counter of a loop is there while there are rounds to come. -/
theorem field?_count_counter :
    (plan.count id items round env).vars.field? (loopCounter id) =
      if round < plan.rounds items then some (.int round) else none := by
  unfold count
  split
  · exact ((h.put _ _).field?_put_of_ne (loopCounter_ne_index id).symm _).trans
      (h.field?_put_self _ _)
  · exact Object.field?_remove_self _ _

/-- Counting a round changes no other variable. -/
theorem field?_count_of_ne (hcounter : name ≠ loopCounter id) (hindex : name ≠ "loop_index") :
    (plan.count id items round env).vars.field? name = env.vars.field? name := by
  have hcounted : ((env.put (loopCounter id) (.int round)).put "loop_index"
      (.int round)).vars.field? name = env.vars.field? name :=
    ((h.put _ _).field?_put_of_ne hindex.symm _).trans (h.field?_put_of_ne hcounter.symm _)
  unfold count
  split
  · exact hcounted
  · exact (Object.field?_remove_of_ne hcounter.symm _).trans hcounted

end Counting

/-! ## Visits -/

/-- Whether a loop stands after so many of its rounds: they are counted, the list can be read, and
there is room for its items. -/
structure Stands (plan : LoopPlan) (id : String) (items : List Value) (n : Nat) (env : Env) :
    Prop where
  counter : env.vars.field? (loopCounter id) = if n = 0 then none else some (.int n)
  list : plan.items env.vars = .ok items
  room : plan.HasRoom env

/-- What a visit of a loop gives and leaves behind that is its round of some number. -/
structure Rounds (plan : LoopPlan) (id : String) (items : List Value) (round : Nat)
    (before : Scene) (ended : Except Failure NodeResult × Scene) : Prop where
  /-- The loop is left by `loop`, and in its last round by `complete`. -/
  leaves : ended.1 = .ok ⟨.leave (plan.handle items round), [("iteration", .int round)]⟩
  index : ended.2.env.vars.field? "loop_index" = some (.int round)
  /-- The item of the round is read in the item's variable. -/
  item : ∀ path, plan.collection ≠ none → plan.itemVariable = some path →
    ∀ value, items[round - 1]? = some value → ended.2.env.vars.read? path = .ok (some value)
  /-- The counter is there until the last round. -/
  counter : ended.2.env.vars.field? (loopCounter id) =
    if round < plan.rounds items then some (.int round) else none
  list : plan.items ended.2.env.vars = .ok items
  /-- Other variables are as they were. -/
  kept : ∀ name, name ≠ loopCounter id → name ≠ "loop_index" →
    (∀ path, plan.itemVariable = some path → firstSegment path ≠ name) →
    ended.2.env.vars.field? name = before.env.vars.field? name
  outside : ended.2.outside = before.outside
  room : plan.HasRoom ended.2.env

/-- **One round**: a visit counts on from the rounds before. -/
theorem Stands.rounds {scene : Scene} (h : plan.Stands id items n scene.env)
    (hsep : plan.Separate id) (hne : plan.itemVariable ≠ some "")
    (hsize : n ≤ exactFloatSize) :
    plan.Rounds id items (n + 1) scene ((runLoop id plan).run.run scene) := by
  have hread : ((scene.env.vars.field? (loopCounter id)).getD (.int 0)).toWhole =
      .ok (n : Int) := by
    rw [h.counter]
    split
    · next hzero => subst hzero; exact Value.toWhole_int hsize
    · exact Value.toWhole_int hsize
  have hhand : plan.HasRoom (plan.handOut items n scene.env) := h.room.handOut
  have hcounter : (plan.count id items (n + 1) (plan.handOut items n scene.env)).vars.field?
      (loopCounter id) = if n + 1 < plan.rounds items then some (.int ↑(n + 1)) else none :=
    field?_count_counter hhand.rooted
  have hkept : ∀ name, name ≠ loopCounter id → name ≠ "loop_index" →
      (∀ path, plan.itemVariable = some path → firstSegment path ≠ name) →
      (plan.count id items (n + 1) (plan.handOut items n scene.env)).vars.field? name =
        scene.env.vars.field? name := fun name hone htwo hthree =>
    (field?_count_of_ne hhand.rooted hone htwo).trans (h.room.field?_handOut hthree)
  rw [run_runLoop hread h.list]
  refine ⟨rfl, field?_count_index hhand.rooted, ?_, hcounter, ?_, hkept, rfl, hhand.count hsep⟩
  · intro path hcollection hpath value hvalue
    obtain ⟨collection, hcollection⟩ := Option.ne_none_iff_exists'.1 hcollection
    obtain ⟨rest, hsegments, -⟩ := Path.ofText_spec path
    obtain ⟨hone, htwo, -⟩ := hsep.item path hpath
    refine Object.read?_of_at? (fun hempty => hne (hempty ▸ hpath)) ?_
    have hfound : (plan.handOut items n scene.env).vars.at? (Path.ofText path) = some value :=
      h.room.at?_handOut hcollection hpath hvalue
    rw [hsegments] at hfound ⊢
    exact (Object.at?_congr (field?_count_of_ne hhand.rooted hone htwo) rest).trans hfound
  · have hlist := h.list
    unfold LoopPlan.items at hlist ⊢
    cases hcollection : plan.collection with
    | none => rwa [hcollection] at hlist
    | some collection =>
      rw [hcollection] at hlist
      obtain ⟨hone, htwo⟩ := hsep.collection collection hcollection
      have hitem : ∀ path, plan.itemVariable = some path →
          firstSegment path ≠ firstSegment collection :=
        fun path hpath => (hsep.item path hpath).2.2 collection hcollection
      refine (listAt_congr (hkept _ hone htwo hitem) ?_).trans hlist
      -- the whole path can name the counter, but this is no list
      by_cases hwhole : trim collection = loopCounter id
      · rw [hwhole, h.counter, hcounter]
        split <;> split <;> rfl
      · have hother : ∀ path, plan.itemVariable = some path → firstSegment path ≠ trim collection :=
          fun path hpath => (trim_ne_firstSegment (hitem path hpath).symm).symm
        exact congrArg (·.bind Value.list?)
          (hkept _ hwhole (trim_ne (by decide) htwo) hother)

/-- Whether a change of the variables keeps what a loop goes by: its counter and its list. -/
structure Keeps (plan : LoopPlan) (id : String) (before after : Object) : Prop where
  counter : after.field? (loopCounter id) = before.field? (loopCounter id)
  list : plan.items after = plan.items before

/-- After a round a loop stands at the next one; after the last one it stands at its beginning. -/
theorem Rounds.stands {before scene : Scene} {ended : Except Failure NodeResult × Scene}
    (h : plan.Rounds id items (n % plan.rounds items + 1) before ended)
    (hkeeps : plan.Keeps id ended.2.env.vars scene.env.vars) (hroom : plan.HasRoom scene.env) :
    plan.Stands id items ((n + 1) % plan.rounds items) scene.env := by
  refine ⟨?_, hkeeps.list.trans h.list, hroom⟩
  have hlt : n % plan.rounds items < plan.rounds items := Nat.mod_lt _ (plan.rounds_pos items)
  rw [hkeeps.counter, h.counter, ← Nat.mod_add_mod]
  split
  · next hmore => rw [Nat.mod_eq_of_lt hmore, if_neg (Nat.succ_ne_zero _)]
  · next hlast =>
    have hround : n % plan.rounds items + 1 = plan.rounds items := by omega
    rw [hround, Nat.mod_self, if_pos rfl]

/-- A loop that is visited again and again, while nothing else happens, goes on counting. -/
theorem Stands.visits {scene : Scene} (h : plan.Stands id items 0 scene.env)
    (hsep : plan.Separate id) (hne : plan.itemVariable ≠ some "")
    (hsize : plan.rounds items ≤ exactFloatSize) (k : Nat) :
    plan.Stands id items (k % plan.rounds items) ((runLoop id plan).visits scene k).env := by
  induction k with
  | zero => exact (Nat.zero_mod _).symm ▸ h
  | succ k ih =>
    have hlt : k % plan.rounds items < plan.rounds items := Nat.mod_lt _ (plan.rounds_pos items)
    have hround := ih.rounds hsep hne (by omega)
    exact hround.stands ⟨rfl, rfl⟩ hround.room

end LoopPlan

/-- What a loop node does is configured by its plan, and its variable for items has a name. -/
theorem FlowNode.itemVariable_ne_empty {node : FlowNode} {plan : LoopPlan}
    (h : node.configured? = some (.loop plan)) : plan.itemVariable ≠ some "" := by
  obtain ⟨type, fields, -, heq⟩ := configured?_some h
  cases type with
  | loop =>
    obtain rfl := NodeConfig.loop.inj heq
    exact fun hempty => presentText?_ne_empty hempty rfl
  | _ => cases heq

/-- **Loops count exactly.** Let a loop node be visited again and again, first without its counter,
with its list readable, and let its variables not get in each other's way. Between visits anything
may change but the counter and the list, and in each visit there is room for the items. With `N`
rounds, visit `k`, counted from zero, is round `k % N + 1`: it sets the index of the loop to this
number and the item's variable to the item of this number, if there is one; it leaves the loop by
`complete` if the number is `N`, and by `loop` else. After round `N` the counter is gone, so the
next visit is the first round again. -/
theorem FlowNode.counts_rounds {node : FlowNode} {plan : LoopPlan} {items : List Value}
    (hc : node.configured? = some (.loop plan)) (hsep : plan.Separate node.id)
    (hsize : plan.rounds items ≤ exactFloatSize) (recipient : Recipient) (visit : Nat → Scene)
    (hfirst : (visit 0).env.vars.field? (loopCounter node.id) = none)
    (hlist : plan.items (visit 0).env.vars = .ok items) (k : Nat)
    (hroom : ∀ j ≤ k, plan.HasRoom (visit j).env)
    (hkeeps : ∀ j < k, plan.Keeps node.id ((node.act recipient).run.run (visit j)).2.env.vars
      (visit (j + 1)).env.vars) :
    plan.Rounds node.id items (k % plan.rounds items + 1) (visit k)
      ((node.act recipient).run.run (visit k)) := by
  have hact : node.act recipient = runLoop node.id plan := act_of_configured recipient hc
  have hround : ∀ j, plan.Stands node.id items (j % plan.rounds items) (visit j).env →
      plan.Rounds node.id items (j % plan.rounds items + 1) (visit j)
        ((node.act recipient).run.run (visit j)) := by
    intro j hstands
    have hlt : j % plan.rounds items < plan.rounds items := Nat.mod_lt _ (plan.rounds_pos items)
    rw [hact]
    exact hstands.rounds hsep (itemVariable_ne_empty hc) (by omega)
  refine hround k ?_
  induction k with
  | zero =>
    refine ⟨?_, hlist, hroom 0 (Nat.le_refl _)⟩
    rw [Nat.zero_mod, if_pos rfl, hfirst]
  | succ k ih =>
    have hstands := ih (fun j hj => hroom j (Nat.le_succ_of_le hj))
      (fun j hj => hkeeps j (Nat.lt_succ_of_lt hj))
    exact (hround k hstands).stands (hkeeps k (Nat.lt_succ_self k)) (hroom (k + 1) (Nat.le_refl _))

/-! ## Loops through lists -/

/-- A loop through a list. -/
def loopThrough (collection itemVariable : String) : FlowNode where
  id := "l"
  type := "loop"
  config := .object [("loopType", .text "foreach"), ("collection", .text collection),
    ("itemVariable", .text itemVariable)]

/-- Two names. -/
def names : List Value := [.text "Ann", .text "Bo"]

/-- A scene with a list of them. -/
def namesScene : Scene := { bareScene with env := .ofVariables [("names", .list names)] }

/-- A list of two names is gone through in two rounds, and then from its beginning again. -/
theorem FlowNode.counts_rounds_names :
    let act := (loopThrough "names" "person.name").act someRecipient
    let ended := fun k => act.run.run (act.visits namesScene k)
    (ended 1).1 = .ok ⟨.leave "complete", [("iteration", .int 2)]⟩ ∧
      (ended 1).2.env.vars.read? "person.name" = .ok (some (.text "Bo")) ∧
      (ended 1).2.env.vars.field? "_loop_l" = none ∧
      (ended 2).1 = .ok ⟨.leave "loop", [("iteration", .int 1)]⟩ := by
  intro act ended
  let plan : LoopPlan := ⟨some "names", some "person.name", 10⟩
  have hc : (loopThrough "names" "person.name").configured? = some (.loop plan) := by rfl
  have hact : act = runLoop "l" plan := act_of_configured someRecipient hc
  have hsep : plan.Separate "l" := by
    refine ⟨fun path hpath => ?_, fun collection hcollection => ?_⟩
    · cases hpath
      refine ⟨by decide, by decide, fun collection hcollection => ?_⟩
      cases hcollection
      decide
    · cases hcollection
      exact ⟨by decide, by decide⟩
  have hstands : plan.Stands "l" names 0 namesScene.env :=
    ⟨by cbv, by cbv, Env.owns_ofVariables _ [""] [] [""] (by decide) rfl,
      fun _ _ => Env.owns_ofVariables _ _⟩
  have hroom : ∀ j, plan.HasRoom (act.visits namesScene j).env := fun j =>
    hact ▸ (hstands.visits hsep (by decide) (by decide) j).room
  have hround := fun k => counts_rounds hc hsep (by decide) someRecipient (act.visits namesScene)
    hstands.counter hstands.list k (fun j _ => hroom j) fun _ _ => ⟨rfl, rfl⟩
  have hrounds : plan.rounds names = 2 := by cbv
  rw [hrounds] at hround
  exact ⟨(hround 1).leaves, (hround 1).item _ (by decide) rfl _ rfl, (hround 1).counter,
    (hround 2).leaves⟩

/-- A scene with a list of one item. -/
def singleScene : Scene := { bareScene with env := .ofVariables [("a", .list [.int 1])] }

/-- Three items. -/
def threeItems : List Value := [.int 1, .int 2, .int 3]

/-- A scene in which two variables hold the same object, with a list of three items. -/
def sharedScene : Scene :=
  { bareScene with env := .twins (.object [("items", .list threeItems)]) }

/-- **Two loops that do not count exactly.** The path of a list can have a segment that looks like
digits and is no number; then the visit fails, and the list does not count as empty. And the first
item overwrites the list if the object that it is put into is the one that holds the list; then the
loop is left in the second of three rounds. -/
theorem miscounted_loops :
    let unread := loopThrough "a.²" "item"
    let overwritten := loopThrough "data.items" "current.items"
    let plan : LoopPlan := ⟨some "data.items", some "current.items", 10⟩
    (unread.configured? = some (.loop ⟨some "a.²", some "item", 10⟩) ∧
      (unread.act someRecipient).run.run singleScene =
        (.error (.fault (.notDecimal "²")), singleScene)) ∧
    (overwritten.configured? = some (.loop plan) ∧ plan.Separate overwritten.id ∧
      plan.items sharedScene.env.vars = .ok threeItems ∧ plan.rounds threeItems = 3 ∧
      ((overwritten.act someRecipient).run.run
        ((overwritten.act someRecipient).visits sharedScene 1)).1 =
          .ok ⟨.leave "complete", [("iteration", .int 2)]⟩) := by
  have hdigit : (loopThrough "a.²" "item").configured? =
      some (.loop ⟨some "a.²", some "item", 10⟩) := by rfl
  have hshared : (loopThrough "data.items" "current.items").configured? =
      some (.loop ⟨some "data.items", some "current.items", 10⟩) := by rfl
  refine ⟨⟨hdigit, ?_⟩, hshared, ⟨fun path hpath => ?_, fun collection hcollection => ?_⟩,
    by cbv, by decide, ?_⟩
  · have hfault : LoopPlan.items ⟨some "a.²", some "item", 10⟩ [("a", .list [.int 1])] =
        .error (.notDecimal "²") := by cbv
    have hcounter : ((singleScene.env.vars.field? (loopCounter "l")).getD (.int 0)).toWhole =
        .ok ((0 : Nat) : Int) := Value.toWhole_int (Nat.zero_le _)
    rw [FlowNode.act_of_configured _ hdigit]
    exact run_runLoop_unreadable hcounter hfault
  · cases hpath
    refine ⟨by decide, by decide, fun collection hcollection => ?_⟩
    cases hcollection
    decide
  · cases hcollection
    exact ⟨by decide, by decide⟩
  · let plan : LoopPlan := ⟨some "data.items", some "current.items", 10⟩
    let after : Scene := { sharedScene with
      env := plan.count "l" threeItems 1 (plan.handOut threeItems 0 sharedScene.env) }
    have hlist : plan.items sharedScene.env.vars = .ok threeItems := by cbv
    have hlost : plan.items after.env.vars = .ok [] := by cbv
    have hcounter : after.env.vars.field? (loopCounter "l") = some (.int 1) := by cbv
    have hfirst : (runLoop "l" plan).run.run sharedScene = (.ok ⟨.leave _, _⟩, after) :=
      run_runLoop (n := 0) (Value.toWhole_int (Nat.zero_le _)) hlist
    have hsecond :=
      run_runLoop (n := 1) (by rw [hcounter]; exact Value.toWhole_int (by decide)) hlost
    rw [FlowNode.act_of_configured _ hshared]
    show ((runLoop "l" plan).run.run ((runLoop "l" plan).run.run sharedScene).2).1 = _
    rw [hfirst, hsecond]
    rfl

end ChatFlow

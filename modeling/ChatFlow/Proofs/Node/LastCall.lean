import ChatFlow.Proofs.Node.Calls
import ChatFlow.Proofs.Value.Alike
import ChatFlow.Proofs.Value.Templates

/-!
# What the variables tell of the last call

A call in two scenes that differ in the variables that tell of earlier calls only. If the call
refers to none of these variables it is rendered to the same, so it has the same outcome; the parts
of an answer are taken to variables that are alike, and what is noted does not depend on what was
noted before (`TellsAlike`). There is one exception: a call that fails leaves the status of an
earlier answer in place.

Main statement: `FlowNode.tells_last_call`.
-/

namespace ChatFlow

/-- Whether a call neither reads nor writes the variables that tell of calls. -/
structure ApiCall.SparesNotes (call : ApiCall) : Prop where
  reads : ∀ path ∈ call.placeholders, firstSegment path ∉ callVariables
  writes : ∀ mapping ∈ call.mappings, firstSegment mapping.variableName ∉ callVariables

/-- Whether a call ends alike in two scenes: with the same result, having asked the same, and, if it
does not fail its node, with variables that tell the same, unless the call failed and the variables
told of different statuses before. -/
structure TellsAlike (before₁ before₂ : Env) (ended₁ ended₂ : Except Failure NodeResult × Scene) :
    Prop where
  result : ended₁.1 = ended₂.1
  outside : ended₁.2.outside = ended₂.2.outside
  fields : ended₁.1.isOk = true → ∀ name, name ≠ statusVariable →
    ended₁.2.env.vars.field? name = ended₂.2.env.vars.field? name
  status : ended₁.1.isOk = true →
    (ended₁.2.env.vars.field? statusVariable = ended₂.2.env.vars.field? statusVariable ↔
      ended₁.2.env.vars.field? errorVariable = none ∨
        before₁.vars.field? statusVariable = before₂.vars.field? statusVariable)

namespace TellsAlike

variable {before₁ before₂ : Env}

/-- Two calls that fail their nodes for the same reason. -/
theorem of_error (failure : Failure) {scene₁ scene₂ : Scene}
    (h : scene₁.outside = scene₂.outside) :
    TellsAlike before₁ before₂ (.error failure, scene₁) (.error failure, scene₂) :=
  ⟨rfl, h, fun hok => absurd hok Bool.false_ne_true, fun hok => absurd hok Bool.false_ne_true⟩

end TellsAlike

/-- Variables that do not tell of calls are read alike in environments that differ in those that do
only. -/
theorem Env.AlikeBut.read_eq {env₁ env₂ : Env} (h : AlikeBut callVariables env₁ env₂)
    {path : String} (hpath : firstSegment path ∉ callVariables) :
    env₁.vars.read path = env₂.vars.read path := by
  have hwhole : trim path ∉ callVariables := by
    intro hmem
    have hdots : ∀ name ∈ callVariables, '.' ∉ name.toList := by decide
    exact trim_ne (hdots _ hmem) (fun heq => hpath (heq ▸ hmem)) rfl
  rw [Object.read, Object.read, Object.read?_congr (h.fields _ hpath) (h.fields _ hwhole)]

/-- Noting an answer makes environments that were alike tell the same. -/
theorem Env.AlikeBut.field?_withAnswer {env₁ env₂ : Env} (h : AlikeBut callVariables env₁ env₂)
    (status : Int) (name : String) :
    (env₁.withAnswer status).vars.field? name = (env₂.withAnswer status).vars.field? name := by
  obtain ⟨hroot₁, hroot₂⟩ := h.isRooted
  by_cases hname : name ∈ callVariables
  · simp only [callVariables, List.mem_cons, List.not_mem_nil, or_false] at hname
    rcases hname with rfl | rfl | rfl
    · rw [hroot₁.field?_withAnswer_status, hroot₂.field?_withAnswer_status]
    · rw [hroot₁.field?_withAnswer_success, hroot₂.field?_withAnswer_success]
    · rw [Env.field?_withAnswer_error, Env.field?_withAnswer_error]
  · rw [hroot₁.field?_withAnswer_of_not_mem hname, hroot₂.field?_withAnswer_of_not_mem hname,
      h.fields name hname]

/-- Noting a failure makes environments that were alike tell the same, but for a status. -/
theorem Env.AlikeBut.field?_withFailure {env₁ env₂ : Env} (h : AlikeBut callVariables env₁ env₂)
    (reason : String) {name : String} (hname : name ≠ statusVariable) :
    (env₁.withFailure reason).vars.field? name = (env₂.withFailure reason).vars.field? name := by
  obtain ⟨hroot₁, hroot₂⟩ := h.isRooted
  by_cases hsuccess : name = successVariable
  · rw [hsuccess, hroot₁.field?_withFailure_success, hroot₂.field?_withFailure_success]
  by_cases herror : name = errorVariable
  · rw [herror, hroot₁.field?_withFailure_error, hroot₂.field?_withFailure_error]
  rw [hroot₁.field?_withFailure_of_ne hsuccess herror,
    hroot₂.field?_withFailure_of_ne hsuccess herror, h.fields]
  simp [callVariables, hname, hsuccess, herror]

/-- **A call is settled alike** in scenes that are alike. -/
theorem tellsAlike_settleCall {mappings : List ResponseMapping}
    (hwrites : ∀ mapping ∈ mappings, firstSegment mapping.variableName ∉ callVariables)
    (scene₁ scene₂ : Scene) (houtside : scene₁.outside = scene₂.outside)
    (h : Env.AlikeBut callVariables scene₁.env scene₂.env)
    (outcome : Except CallError (Int × String)) :
    TellsAlike scene₁.env scene₂.env ((settleCall mappings outcome).run.run scene₁)
      ((settleCall mappings outcome).run.run scene₂) := by
  cases outcome with
  | ok answer =>
    obtain ⟨status, body⟩ := answer
    obtain ⟨hresult, hbeside⟩ := (h.beside (answerBody body)).takeParts hwrites
    have hafter := hbeside.withoutGuest
    rcases hparts₁ : takeParts mappings (scene₁.env.beside (answerBody body)) with ⟨taken, env₁⟩
    rcases hparts₂ : takeParts mappings (scene₂.env.beside (answerBody body)) with ⟨_, env₂⟩
    rw [hparts₁, hparts₂] at hresult hafter
    obtain rfl : taken = _ := hresult
    cases taken with
    | error fault =>
      rw [run_settleCall_of_fault scene₁ hparts₁, run_settleCall_of_fault scene₂ hparts₂]
      exact .of_error _ houtside
    | ok _ =>
      rw [run_settleCall_of_taken scene₁ hparts₁, run_settleCall_of_taken scene₂ hparts₂]
      have hsame := hafter.field?_withAnswer status
      exact ⟨rfl, houtside, fun _ name _ => hsame name,
        fun _ => ⟨fun _ => .inl (Env.field?_withAnswer_error _ _), fun _ => hsame _⟩⟩
  | error error =>
    cases hkept : error.kept? with
    | none =>
      have hfails (scene : Scene) : (settleCall mappings (.error error)).run.run scene =
          (.error (.call error), scene) := by
        rw [settleCall]
        simp only [hkept]
        rfl
      rw [hfails, hfails]
      exact .of_error _ houtside
    | some reason =>
      rw [run_settleCall_error hkept, run_settleCall_error hkept]
      obtain ⟨hroot₁, hroot₂⟩ := h.isRooted
      refine ⟨rfl, houtside, fun _ name hname => h.field?_withFailure reason hname, fun _ => ?_⟩
      dsimp only
      rw [hroot₁.field?_withFailure_of_ne (by decide) (by decide),
        hroot₂.field?_withFailure_of_ne (by decide) (by decide), hroot₁.field?_withFailure_error]
      simp

/-- **The variables tell of the last call.** Let two scenes differ in no variable but those that
tell of calls, and let a node call another service without referring to these variables. Then the
node ends in both scenes with the same result, having asked the same. Unless it fails, every
variable holds the same in the end, but for the status: it is the same too if the service answered,
and if the call failed, exactly if it was the same before. -/
theorem FlowNode.tells_last_call {node : FlowNode} {call : ApiCall}
    (hc : node.configured? = some (.apiCall call)) (recipient : Recipient)
    (hspares : call.SparesNotes) {scene₁ scene₂ : Scene}
    (houtside : scene₁.outside = scene₂.outside)
    (h : Env.AlikeBut callVariables scene₁.env scene₂.env) :
    TellsAlike scene₁.env scene₂.env ((node.act recipient).run.run scene₁)
      ((node.act recipient).run.run scene₂) := by
  have hact : node.act recipient = callService call := act_of_configured recipient hc
  have hrender : call.render scene₁.env.vars = call.render scene₂.env.vars :=
    ApiCall.render_congr fun path hpath => h.read_eq (hspares.reads path hpath)
  rw [hact]
  cases hfirst : call.render scene₁.env.vars with
  | error fault =>
    rw [run_callService_unrendered hfirst, run_callService_unrendered (hrender ▸ hfirst)]
    exact .of_error _ houtside
  | ok rendered =>
    cases htimeout : callTimeout call.timeoutMs with
    | error failure =>
      rw [run_callService_untimed hfirst htimeout,
        run_callService_untimed (hrender ▸ hfirst) htimeout]
      exact .of_error _ houtside
    | ok timeout =>
      rw [run_callService hfirst htimeout, run_callService (hrender ▸ hfirst) htimeout, ← houtside]
      exact tellsAlike_settleCall hspares.writes (scene₁.afterCall rendered timeout)
        (scene₂.afterCall rendered timeout)
        (by rw [Scene.afterCall, Scene.afterCall, houtside]) h _

/-! ## A shop that is not reached -/

/-- A scene in which the shop is not reached. -/
def closedShopScene (vars : Object) : Scene :=
  shopScene (.ofVariables vars) (.disconnected "ConnectError" "connection refused")

/-- A call of the shop notes that it was not reached. -/
theorem run_orderNode_closed (vars : Object) :
    ∃ result outside, ((orderNode []).act someRecipient).run.run (closedShopScene vars) =
      (.ok result, ⟨(Env.ofVariables vars).withFailure "connection refused", outside⟩) := by
  have hc : (orderNode []).configured? = some (.apiCall (orderCall [])) := by rfl
  have hact : (orderNode []).act someRecipient = callService (orderCall []) :=
    FlowNode.act_of_configured someRecipient hc
  have hrender (vars : Object) :
      (orderCall []).render vars = .ok ⟨"GET", "http://shop", [], .absent⟩ := by cbv
  have htimeout : callTimeout (orderCall []).timeoutMs = .ok usualTimeout := rfl
  have houtcome : ((RenderedCall.mk "GET" "http://shop" [] .absent).perform usualTimeout
      (closedShopScene vars).outside.web).1 =
        .error (.disconnected "ConnectError" "connection refused") :=
    RenderedCall.perform_shop _ _
  rw [hact, run_callService (hrender _) htimeout, houtcome, run_settleCall_error rfl]
  exact ⟨_, _, rfl⟩

/-- The variables tell that the shop was not reached, whatever they told before. -/
theorem FlowNode.tells_last_call_closed :
    let ended vars := ((orderNode []).act someRecipient).run.run (closedShopScene vars)
    ∀ name, name ≠ "api_status" →
      (ended [("api_error", .text "late")]).2.env.vars.field? name =
        (ended [("api_success", .bool true)]).2.env.vars.field? name := by
  intro ended name hname
  have hc : (orderNode []).configured? = some (.apiCall (orderCall [])) := by rfl
  have hplaceholders : (orderCall []).placeholders = [] := by cbv
  have hspares : (orderCall []).SparesNotes :=
    ⟨fun path hpath => by simp [hplaceholders] at hpath, fun _ h => absurd h List.not_mem_nil⟩
  have houtside : (closedShopScene [("api_error", .text "late")]).outside =
      (closedShopScene [("api_success", .bool true)]).outside := rfl
  have halike : Env.AlikeBut callVariables (closedShopScene [("api_error", .text "late")]).env
      (closedShopScene [("api_success", .bool true)]).env := by
    refine Env.alikeBut_ofVariables fun other hother => ?_
    simp only [callVariables, List.mem_cons, List.not_mem_nil, or_false, not_or] at hother
    obtain ⟨-, hsuccess, herror⟩ := hother
    have hlate : Object.field? [("api_error", .text "late")] other = none :=
      if_neg (Ne.symm herror)
    have htold : Object.field? [("api_success", .bool true)] other = none :=
      if_neg (Ne.symm hsuccess)
    exact hlate.trans htold.symm
  have htells := tells_last_call hc someRecipient hspares houtside halike
  obtain ⟨result, outside, hended⟩ := run_orderNode_closed [("api_error", .text "late")]
  refine htells.fields ?_ name hname
  rw [hended]
  rfl

/-- The status of an answer survives a later call in which the shop is not reached. -/
theorem status_survives_failure :
    let ended vars := ((orderNode []).act someRecipient).run.run (closedShopScene vars)
    (ended [("api_status", .int 200)]).2.env.vars.field? "api_status" = some (.int 200) ∧
      (ended []).2.env.vars.field? "api_status" = none := by
  intro ended
  have hstatus : ∀ vars, (ended vars).2.env.vars.field? "api_status" =
      Object.field? vars "api_status" := by
    intro vars
    obtain ⟨result, outside, hended⟩ := run_orderNode_closed vars
    have hroot : (Env.ofVariables vars).IsRooted :=
      Env.owns_ofVariables vars [""] [] [""] (List.cons_ne_nil _ _) rfl
    show (((orderNode []).act someRecipient).run.run (closedShopScene vars)).2.env.vars.field? _ = _
    rw [hended]
    exact hroot.field?_withFailure_of_ne (by decide) (by decide) _
  exact ⟨(hstatus _).trans rfl, (hstatus _).trans rfl⟩

end ChatFlow

import Mathlib
import ChatFlow.Proofs.Node.Handles
import ChatFlow.Proofs.Node.Plain
import ChatFlow.Proofs.Value.Parts

/-!
# What becomes of a call

A call to another service is rendered, made and settled (`run_callService`). An answer is settled by
taking parts of it and noting its status, a failure by noting its reason. A failure does not fail
the node unless the way to the service breaks (`CallError.IsContained`).

Parts are taken one after the other and no copies are made of them, so a part can overwrite another
one if both go to paths through an object that is found at two places. Where the paths are the
environment's own, every part is found at its path in the end.

Main statement: `FlowNode.contains_failures`.
-/

namespace ChatFlow

/-! ## Failures that are contained -/

/-- The variables that tell of the last call. -/
def callVariables : List String := [statusVariable, successVariable, errorVariable]

namespace Env

/-- The environment in which an answer was noted. -/
def withAnswer (env : Env) (status : Int) : Env :=
  ((env.put statusVariable (.int status)).put successVariable
    (.bool (isSuccessStatus status))).remove errorVariable

/-- The environment in which a failure was noted. -/
def withFailure (env : Env) (reason : String) : Env :=
  (env.put errorVariable (.text reason)).put successVariable (.bool false)

namespace IsRooted

variable {env : Env} (h : env.IsRooted)
include h

theorem field?_withAnswer_status (status : Int) :
    (env.withAnswer status).vars.field? statusVariable = some (.int status) :=
  ((Object.field?_remove_of_ne (by decide) _).trans
    ((h.put _ _).field?_put_of_ne (by decide) _)).trans (h.field?_put_self _ _)

theorem field?_withAnswer_success (status : Int) :
    (env.withAnswer status).vars.field? successVariable =
      some (.bool (isSuccessStatus status)) :=
  (Object.field?_remove_of_ne (by decide) _).trans ((h.put _ _).field?_put_self _ _)

theorem field?_withAnswer_of_not_mem {name : String} (hname : name ∉ callVariables)
    (status : Int) : (env.withAnswer status).vars.field? name = env.vars.field? name := by
  simp only [callVariables, List.mem_cons, List.not_mem_nil, or_false, not_or] at hname
  obtain ⟨hstatus, hsuccess, herror⟩ := hname
  exact ((Object.field?_remove_of_ne (Ne.symm herror) _).trans
    ((h.put _ _).field?_put_of_ne (Ne.symm hsuccess) _)).trans
      (h.field?_put_of_ne (Ne.symm hstatus) _)

theorem field?_withFailure_success (reason : String) :
    (env.withFailure reason).vars.field? successVariable = some (.bool false) :=
  (h.put _ _).field?_put_self _ _

theorem field?_withFailure_error (reason : String) :
    (env.withFailure reason).vars.field? errorVariable = some (.text reason) :=
  ((h.put _ _).field?_put_of_ne (by decide) _).trans (h.field?_put_self _ _)

theorem field?_withFailure_of_ne {name : String} (hsuccess : name ≠ successVariable)
    (herror : name ≠ errorVariable) (reason : String) :
    (env.withFailure reason).vars.field? name = env.vars.field? name :=
  ((h.put _ _).field?_put_of_ne hsuccess.symm _).trans (h.field?_put_of_ne herror.symm _)

end IsRooted

theorem field?_withAnswer_error (env : Env) (status : Int) :
    (env.withAnswer status).vars.field? errorVariable = none :=
  Object.field?_remove_self _ _

end Env

/-- The body of an answer as parts are taken of it. A body that is not JSON counts as an empty
object. -/
def answerBody (body : String) : Value := (readJson? body).getD (.object [])

/-- Taking parts of an answer changes the variables, also if one of the parts cannot be taken. -/
theorem run_takeAnswer {mappings : List ResponseMapping} {answer : Value} (scene : Scene)
    {taken : Except Fault Unit} {env : Env}
    (h : takeParts mappings (scene.env.beside answer) = (taken, env)) :
    (Act.takeAnswer mappings answer).run.run scene =
      (taken.mapError .fault, { scene with env := env.withoutGuest }) := by
  have hstart : (Act.takeAnswer mappings answer).run.run scene =
      ((do
        Act.changeEnv fun _ => (takeParts mappings (scene.env.beside answer)).2.withoutGuest
        liftM (takeParts mappings (scene.env.beside answer)).1 : Act Unit)).run.run scene := rfl
  rw [hstart, h, Act.run_bind, Act.run_changeEnv]
  exact Act.run_lift _ _

/-- An answer is settled by taking its parts and noting it. -/
theorem run_settleCall_of_taken {mappings : List ResponseMapping} {body : String} (scene : Scene)
    {env : Env} (h : takeParts mappings (scene.env.beside (answerBody body)) = (.ok (), env))
    (status : Int) :
    (settleCall mappings (.ok (status, body))).run.run scene =
      (.ok ⟨.leave none, [(statusVariable, .int status),
        (successVariable, .bool (isSuccessStatus status))]⟩,
        { scene with env := env.withoutGuest.withAnswer status }) := by
  have htake := run_takeAnswer scene h
  rw [answerBody] at htake
  rw [settleCall]
  simp only [keepAnswer, Act.run_bind, htake]
  rfl

/-- An answer of which a part cannot be taken is not noted. -/
theorem run_settleCall_of_fault {mappings : List ResponseMapping} {body : String} (scene : Scene)
    {fault : Fault} {env : Env}
    (h : takeParts mappings (scene.env.beside (answerBody body)) = (.error fault, env))
    (status : Int) :
    (settleCall mappings (.ok (status, body))).run.run scene =
      (.error (.fault fault), { scene with env := env.withoutGuest }) := by
  have htake := run_takeAnswer scene h
  rw [answerBody] at htake
  rw [settleCall]
  simp only [keepAnswer, Act.run_bind, htake]
  rfl

/-- A failure that is kept is settled by noting it. -/
theorem run_settleCall_error {error : CallError} {reason : String}
    (h : error.kept? = some reason) (mappings : List ResponseMapping) (scene : Scene) :
    (settleCall mappings (.error error)).run.run scene =
      (.ok ⟨.leave none, [(successVariable, .bool false), (errorVariable, .text reason)]⟩,
        { scene with env := scene.env.withFailure reason }) := by
  rw [settleCall]
  simp only [h]
  rfl

/-! ## Calls -/

namespace ApiCall

/-- Whether a call takes the parts of its answer to paths that are apart, in variables that do not
tell of the call, and that are the environment's own. -/
structure HasTargets (call : ApiCall) (env : Env) : Prop where
  named : ∀ mapping ∈ call.mappings,
    mapping.variableName ≠ "" ∧ firstSegment mapping.variableName ∉ callVariables
  apart : call.mappings.Pairwise fun mapping other =>
    (Path.ofText mapping.variableName).Apart (Path.ofText other.variableName)
  owns : ∀ mapping ∈ call.mappings, env.Owns (Path.ofText mapping.variableName)

/-- What a call that was answered gives and leaves behind. -/
structure Answered (call : ApiCall) (status : Int) (body : String) (before : Env)
    (ended : Except Failure NodeResult × Scene) : Prop where
  leaves : ∃ notes, ended.1 = .ok ⟨.leave none, notes⟩
  hasStatus : ended.2.env.vars.field? statusVariable = some (.int status)
  hasSuccess : ended.2.env.vars.field? successVariable =
    some (.bool (decide (200 ≤ status ∧ status < 300)))
  hasNoError : ended.2.env.vars.field? errorVariable = none
  parts : call.HasTargets before → ∀ mapping ∈ call.mappings,
    ended.2.env.vars.read mapping.variableName =
      (·.getD .null) <$> (answerBody body).resolve mapping.path

/-- A part that an answer has is found where it was to be taken. -/
theorem Answered.read_eq {call : ApiCall} {status : Int} {body : String} {before : Env}
    {ended : Except Failure NodeResult × Scene} (h : call.Answered status body before ended)
    (htargets : call.HasTargets before) {name path : String} {part : Value}
    (hmapping : ⟨name, path⟩ ∈ call.mappings)
    (hpart : (answerBody body).resolve path = .ok (some part)) :
    ended.2.env.vars.read name = .ok part := by
  rw [h.parts htargets _ hmapping, hpart]
  rfl

end ApiCall

/-- The scene after a call was made, of which nothing is settled yet. -/
def Scene.afterCall (scene : Scene) (rendered : RenderedCall) (timeout : Float) : Scene :=
  { scene with
    outside := { scene.outside with web := (rendered.perform timeout scene.outside.web).2 } }

/-- **A call is rendered, made and settled.** -/
theorem run_callService {call : ApiCall} {scene : Scene} {rendered : RenderedCall}
    {timeout : Float} (hrender : call.render scene.env.vars = .ok rendered)
    (htimeout : callTimeout call.timeoutMs = .ok timeout) :
    (callService call).run.run scene =
      (settleCall call.mappings (rendered.perform timeout scene.outside.web).1).run.run
        (scene.afterCall rendered timeout) := by
  rw [callService_eq, Act.run_bind, Act.run_vars]
  dsimp only
  rw [Act.run_bind, Act.run_lift, hrender]
  simp only [Except.mapError]
  rw [Act.run_bind, Act.run_ofExcept, htimeout]
  rfl

/-- A call that cannot be rendered fails. -/
theorem run_callService_unrendered {call : ApiCall} {scene : Scene} {fault : Fault}
    (hrender : call.render scene.env.vars = .error fault) :
    (callService call).run.run scene = (.error (.fault fault), scene) := by
  rw [callService_eq, Act.run_bind, Act.run_vars]
  dsimp only
  rw [Act.run_bind, Act.run_lift, hrender]
  rfl

/-- A call whose time cannot be told fails. -/
theorem run_callService_untimed {call : ApiCall} {scene : Scene} {rendered : RenderedCall}
    {failure : Failure} (hrender : call.render scene.env.vars = .ok rendered)
    (htimeout : callTimeout call.timeoutMs = .error failure) :
    (callService call).run.run scene = (.error failure, scene) := by
  rw [callService_eq, Act.run_bind, Act.run_vars]
  dsimp only
  rw [Act.run_bind, Act.run_lift, hrender]
  simp only [Except.mapError]
  rw [Act.run_bind, Act.run_ofExcept, htimeout]

/-- A node that asks a shop for an order and takes parts of the answer. -/
def orderNode (parts : List (String × String)) : FlowNode where
  id := "a"
  type := "apiCall"
  config := .object [("url", .text "http://shop"),
    ("responseMapping", .list (parts.map fun (name, path) =>
      .object [("variableName", .text name), ("jsonPath", .text path)]))]

/-- The call of the node. -/
def orderCall (mappings : List ResponseMapping) : ApiCall :=
  ⟨"GET", "http://shop", [], .null, mappings, none⟩

/-- A scene in which the shop has an answer. -/
def shopScene (env : Env) (answer : Answer) : Scene :=
  { bareScene with env, outside := { bareScene.outside with web := .fresh [answer] } }

/-- The address of the shop names the shop. -/
theorem Url.ofText_shop :
    ofText "http://shop" = .ok ⟨"http", "", "shop", none, "", none, none⟩ := by
  have hhost : normalHost "shop" = .ok "shop" := by
    have hnumbers : looksLikeIpv4 "shop" = false := by cbv
    have hbrackets : ("shop".toList.head? == some '[' && "shop".toList.getLast? == some ']') =
        false := by cbv
    simp only [normalHost, hnumbers, hbrackets]
    cbv
  have hcheck : checkText "http://shop" = .ok () := by cbv
  have hscheme : takeScheme "http://shop".toList = ("http", "//shop".toList) := by cbv
  have hauthority : takeAuthority "//shop".toList = ("shop".toList, []) := by cbv
  have huser : takeThroughLast? '@' "shop".toList = none := by cbv
  have hport : takeHost "shop".toList = ("shop".toList, []) := by cbv
  have hpath : checkPath "" true true = .ok () := by cbv
  have hdots : resolveDots "" = "" := by cbv
  have hlower : toLowerText "http" = "http" := by cbv
  simp only [ofText, hcheck, hscheme, hauthority, huser, hport, hlower, hdots, hhost, cutAt,
    takeMarked, List.takeWhile_nil, List.dropWhile_nil, Option.getD, String.ofList_toList,
    String.ofList_nil]
  show (checkPath "" true true >>= fun _ => _) = _
  rw [hpath]
  rfl

/-- A call of the shop ends as the shop answers. -/
theorem RenderedCall.perform_shop (timeout : Float) (answer : Answer) :
    ((RenderedCall.mk "GET" "http://shop" [] .absent).perform timeout (.fresh [answer])).1 =
      answer.toResponse := by
  have htext : Url.toText ⟨"http", "", "shop", none, "", none, none⟩ = "http://shop" := by rfl
  have hrequest : request ⟨"GET", "http://shop", [], .absent⟩ timeout =
      .ok ⟨"GET", "http://shop", [], "", timeout⟩ := by
    simp only [request, requestUrl, Url.ofText_shop]
    show Except.ok (WebRequest.mk "GET" (Url.toText ⟨"http", "", "shop", none, "", none, none⟩) _
      "" timeout) = _
    rw [htext]
    simp [sentHeaders]
  have hslash : startsWithText "http://shop" "/" = false := by cbv
  simp only [perform, hrequest, Line.ask, Line.fresh, hslash]
  cases answer <;> rfl

end ChatFlow

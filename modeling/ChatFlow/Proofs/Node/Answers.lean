import ChatFlow.Node.Call
import ChatFlow.Node.Send

/-!
# Answers of other services

Another service can answer anything. `Answer.IsUsual` says that it answers as it should. A request
that was made leaves no worse answers to come, and one that fails in a way that is not contained
either could not be written or got an answer that was not a usual one (`postToProvider_error`,
`RenderedCall.perform_fails`). The answers that a line gives when none was arranged are usual.
-/

namespace ChatFlow

/-- Whether the field `messages` of an answer has the usual shape: a list that is empty or begins
with an object, or something that counts as absent. -/
def UsualMessages (value : Value) : Prop :=
  match value.orElse (.list []) with
  | .list [] | .list (.object _ :: _) => True
  | _ => False

/-- Whether another service answers as it should: by a response with an object in JSON, of which the
messages have the usual shape, or by a connection that fails. -/
def Answer.IsUsual : Answer → Prop
  | .response _ body =>
    ∃ fields, readJson? body = some (.object fields) ∧ UsualMessages (Object.get fields "messages")
  | .disconnected _ _ => True
  | .refused _ | .broken _ => False

/-- Whether a line will give usual answers. -/
def Line.IsUsual {Request : Type} (line : Line Request) : Prop :=
  ∀ answer ∈ line.answers, answer.IsUsual

/-- A request that cannot be written: it is never made. -/
def CallError.IsUnwritable : CallError → Prop
  | .url _ | .header _ | .specialFloat => True
  | .disconnected _ _ | .refused _ | .broken _ | .noScheme _ => False

/-- The failures that come from another service, or from what was to be sent to it. -/
def Failure.IsOfService : Failure → Prop
  | .call _ | .messagesByName | .messageOfKind _ | .messagesOfKind _ => True
  | _ => False

/-! ## Standard answers -/

/-- Characters that stand for themselves in the texts of JSON. -/
def IsPlainChar (c : Char) : Prop :=
  c ≠ '"' ∧ c ≠ '\\' ∧ 0x20 ≤ c.toNat ∧ c.toNat < 0x7F

instance (c : Char) : Decidable (IsPlainChar c) :=
  inferInstanceAs (Decidable (_ ∧ _ ∧ _ ∧ _))

theorem readTextBody_plain {cs rest : List Char} (h : ∀ c ∈ cs, IsPlainChar c) :
    readTextBody (cs ++ '"' :: rest) = some (cs, rest) := by
  induction cs with
  | nil => rfl
  | cons c cs ih =>
    obtain ⟨⟨hquote, hslash, hlow, -⟩, hcs⟩ := List.forall_mem_cons.1 h
    rw [List.cons_append, readTextBody.eq_def]
    split
    · next heq => cases heq
    · next heq => exact absurd (List.cons.inj heq).1 hquote
    · next heq => exact absurd (List.cons.inj heq).1 hslash
    · next heq => exact absurd (List.cons.inj heq).1 hslash
    · next heq => exact absurd (List.cons.inj heq).1 hslash
    · next heq =>
      obtain ⟨rfl, rfl⟩ := List.cons.inj heq
      rw [if_neg (by simp [hslash]; omega), ih hcs]
      rfl

theorem jsonChar_plain {c : Char} (h : IsPlainChar c) : jsonChar true c = [c] := by
  obtain ⟨hquote, hslash, hlow, hhigh⟩ := h
  have hn : c ≠ '\n' := by rintro rfl; simp at hlow
  have hr : c ≠ '\r' := by rintro rfl; simp at hlow
  have ht : c ≠ '\t' := by rintro rfl; simp at hlow
  have h8 : c.toNat ≠ 8 := by omega
  have hC : c.toNat ≠ 0xC := by omega
  simp [jsonChar, hquote, hslash, hn, hr, ht, h8, hC, hhigh]
  omega

/-- A plain text is written between quotation marks as it is. -/
theorem jsonText_plain {cs : List Char} (h : ∀ c ∈ cs, IsPlainChar c) :
    (jsonText true (String.ofList cs)).toList = '"' :: cs ++ ['"'] := by
  have hflat : cs.flatMap (jsonChar true) = cs := by
    induction cs with
    | nil => rfl
    | cons c cs ih =>
      obtain ⟨hc, hcs⟩ := List.forall_mem_cons.1 h
      rw [List.flatMap_cons, jsonChar_plain hc, ih hcs]
      rfl
  rw [jsonText, String.toList_ofList, String.toList_ofList, hflat]

theorem toDigits_plain (n : Nat) : ∀ c ∈ Nat.toDigits 10 n, IsPlainChar c := by
  intro c hc
  have hdigit := Nat.isDigit_of_mem_toDigits (by decide) (by decide) hc
  simp only [Char.isDigit, Bool.and_eq_true, decide_eq_true_eq] at hdigit
  obtain ⟨hlow, hhigh⟩ := hdigit
  have hlow' : 48 ≤ c.toNat := UInt32.le_iff_toNat_le.1 hlow
  have hhigh' : c.toNat ≤ 57 := UInt32.le_iff_toNat_le.1 hhigh
  refine ⟨?_, ?_, by omega, by omega⟩ <;> rintro rfl <;> simp at hlow' hhigh'

/-- The id that the standard delivery gives to the message of a number. -/
def standardId (number : Nat) : List Char :=
  "wamid.out.".toList ++ Nat.toDigits 10 number

theorem standardId_plain (number : Nat) : ∀ c ∈ standardId number, IsPlainChar c := by
  intro c hc
  rcases List.mem_append.1 hc with hc | hc
  · have hall : "wamid.out.".toList.all (fun c => decide (IsPlainChar c)) = true := by decide
    exact of_decide_eq_true (List.all_eq_true.1 hall c hc)
  · exact toDigits_plain number c hc

/-- The body of the standard delivery. -/
theorem standardDelivery_body (number : Nat) :
    ∃ body, standardDelivery number = .response 200 body ∧
      body.toList = "\x7b\"messages\": [\x7b\"id\": \"".toList ++
        (standardId number ++ '"' :: "\x7d]\x7d".toList) := by
  refine ⟨_, rfl, ?_⟩
  have hsame : String.ofList (standardId number) = "wamid.out." ++ decimalText number := by
    unfold standardId decimalText
    generalize Nat.toDigits 10 number = digits
    rw [String.ofList_append, String.ofList_toList]
  have hid : (jsonText true ("wamid.out." ++ decimalText number)).toList =
      '"' :: standardId number ++ ['"'] := by
    rw [← hsame]
    exact jsonText_plain (standardId_plain number)
  have hmessages : jsonText true "messages" = "\"messages\"" := by decide
  have hkey : jsonText true "id" = "\"id\"" := by decide
  simp only [Value.toJson, jsonItems, jsonFields, JsonStyle.spaced, hmessages, hkey,
    String.intercalate_singleton, String.toList_append, hid]
  simp

/-- The standard delivery is a usual answer. -/
theorem standardDelivery_usual (number : Nat) : (standardDelivery number).IsUsual := by
  obtain ⟨body, hbody, hchars⟩ := standardDelivery_body number
  have hid : readTextBody (standardId number ++ '"' :: ['\x7d', ']', '\x7d']) =
      some (standardId number, ['\x7d', ']', '\x7d']) :=
    readTextBody_plain (standardId_plain number)
  obtain ⟨depth, hdepth⟩ : ∃ depth, 2 * body.toList.length + 2 = depth + 8 := by
    have hlong : 3 ≤ body.toList.length := by rw [hchars]; simp
    exact ⟨2 * body.toList.length - 6, by omega⟩
  have hread : readValue? (depth + 8) body.toList = some (.object [("messages", .list [.object
      [("id", .text (String.ofList (standardId number)))]])], []) := by
    rw [hchars]
    generalize standardId number = id at hid ⊢
    simp [readValue?, readFields?, readItems?, skipSpace, isJsonSpace, readTextBody, hid,
      Object.put]
  have hjson : readJson? body = some (.object [("messages", .list [.object
      [("id", .text (String.ofList (standardId number)))]])]) := by
    obtain ⟨rest, hrest⟩ : ∃ rest, body.toList = '\x7b' :: rest := ⟨_, hchars⟩
    rw [← hdepth, hrest] at hread
    have hmark : ('\x7b').toNat ≠ 0xFEFF := by decide
    rw [readJson?, hrest]
    simp only [if_neg hmark, hread]
    rfl
  rw [hbody]
  exact ⟨_, hjson, trivial⟩

/-! ## Lines -/

namespace Line

variable {Request : Type} {line : Line Request} {standard : Nat → Answer} {request : Request}

/-- The answers that are still to come after a request were to come before it. -/
theorem IsUsual.ask (h : line.IsUsual) : (line.ask standard request).2.IsUsual := by
  unfold Line.ask
  split
  · next answer rest hl => exact fun other hother => h other (hl ▸ List.mem_cons_of_mem _ hother)
  · exact fun other hother => absurd hother List.not_mem_nil

/-- A request that is made is kept after those before. -/
theorem requests_ask (line : Line Request) (standard : Nat → Answer) (request : Request) :
    (line.ask standard request).2.requests = line.requests ++ [request] := by
  unfold Line.ask
  split <;> rfl

/-- What is answered is the answer that comes next, or a standard answer. -/
theorem IsUsual.answer (h : line.IsUsual) (hstandard : ∀ number, (standard number).IsUsual) :
    (line.ask standard request).1.IsUsual := by
  unfold Line.ask
  split
  · next answer rest hl => exact h answer (hl ▸ List.mem_cons_self)
  · exact hstandard _

end Line

/-! ## The provider -/

/-- The id of the message is found in messages of the usual shape. -/
theorem takenMessageId_usual {fields : Object} (h : UsualMessages (fields.get "messages")) :
    ∃ id, takenMessageId fields = .ok id := by
  unfold UsualMessages Value.orElse at h
  unfold takenMessageId Value.orElse
  cases ht : (fields.get "messages").isTruthy with
  | false => exact ⟨_, rfl⟩
  | true =>
    rw [ht] at h
    simp only [if_true] at h ⊢
    split at h
    · next hm => rw [hm]; exact ⟨_, rfl⟩
    · next hm => rw [hm]; exact ⟨_, rfl⟩
    · exact h.elim

theorem takenMessageId_error {fields : Object} {failure : Failure}
    (h : takenMessageId fields = .error failure) : failure.IsOfService := by
  unfold takenMessageId at h
  split at h <;> cases h <;> trivial

/-- The delivery in a usual response can be read. -/
theorem readDelivery_usual {status : Int} {body : String}
    (h : (Answer.response status body).IsUsual) :
    ∃ delivery, readDelivery status body = .ok delivery := by
  obtain ⟨fields, hjson, husual⟩ := h
  obtain ⟨id, hid⟩ := takenMessageId_usual husual
  have hanswer : ((readJson? body).bind Value.object?).getD [] = fields := by rw [hjson]; rfl
  rw [readDelivery, hanswer]
  split
  · exact ⟨_, rfl⟩
  · exact ⟨_, rfl⟩
  · split
    · exact ⟨_, rfl⟩
    · rw [hid]
      exact ⟨_, rfl⟩

theorem readDelivery_error {status : Int} {body : String} {failure : Failure}
    (h : readDelivery status body = .error failure) : failure.IsOfService := by
  simp only [readDelivery] at h
  split at h
  · cases h
  · cases h
  · split at h
    · cases h
    · next answer _ _ =>
      cases ht : takenMessageId (((readJson? body).bind Value.object?).getD []) with
      | error found =>
        rw [ht] at h
        cases h
        exact takenMessageId_error ht
      | ok id =>
        rw [ht] at h
        cases h

theorem checkHeaders_error {headers : List (String × String)} {error : CallError}
    (h : checkHeaders headers = .error error) : error.IsUnwritable := by
  fun_induction checkHeaders headers with
  | case1 => cases h
  | case2 name value rest run hrun =>
    cases h
    trivial
  | case3 name value rest hnone ih => exact ih h

theorem jsonBody_error {value : Value} {error : CallError} (h : jsonBody value = .error error) :
    error.IsUnwritable := by
  unfold jsonBody at h
  split at h <;> cases h
  trivial

/-- A request to the provider that fails before it is made cannot be written. -/
theorem providerRequest_error {accessToken phoneNumberId : String} {payload : Object}
    {error : CallError} (h : providerRequest accessToken phoneNumberId payload = .error error) :
    error.IsUnwritable := by
  simp only [providerRequest, requestUrl] at h
  cases hu : Url.ofText (messagesUrl phoneNumberId) with
  | error fault =>
    rw [hu] at h
    cases h
    trivial
  | ok url =>
    rw [hu] at h
    cases hc : checkHeaders [("Authorization", "Bearer " ++ accessToken)] with
    | error found =>
      rw [hc] at h
      cases h
      exact checkHeaders_error hc
    | ok _ =>
      rw [hc] at h
      cases hb : jsonBody (.object payload) with
      | error found =>
        rw [hb] at h
        cases h
        exact jsonBody_error hb
      | ok _ =>
        rw [hb] at h
        cases h

/-- **Posting a payload** fails only if the request cannot be written, or if the provider does not
answer as it should. -/
theorem postToProvider_error {credentials : Credentials} {payload : Object}
    {line : Line ProviderRequest} {failure : Failure}
    (h : (postToProvider credentials payload line).1 = .error failure) :
    (∃ error : CallError, error.IsUnwritable ∧ failure = .call error) ∨
      (failure.IsOfService ∧ ¬ line.IsUsual) := by
  unfold postToProvider at h
  split at h
  · next accessToken phoneNumberId _ _ =>
    cases hr : providerRequest accessToken phoneNumberId payload with
    | error error =>
      rw [hr] at h
      cases h
      exact .inl ⟨error, providerRequest_error hr, rfl⟩
    | ok request =>
      have husual : line.IsUsual → (line.ask standardDelivery request).1.IsUsual :=
        fun hl => hl.answer standardDelivery_usual
      rw [hr] at h
      rcases hask : line.ask standardDelivery request with ⟨answer, rest⟩
      simp only [hask] at h husual
      cases answer with
      | response status body =>
        have hread : readDelivery status body = .error failure := h
        refine .inr ⟨readDelivery_error hread, fun hl => ?_⟩
        obtain ⟨delivery, hdelivery⟩ := readDelivery_usual (husual hl)
        rw [hread] at hdelivery
        cases hdelivery
      | disconnected kind message => cases h
      | refused message | broken message =>
        cases h
        exact .inr ⟨trivial, husual⟩
  · cases h

/-- A line that will give usual answers still will after a payload was posted. -/
theorem postToProvider_usual {line : Line ProviderRequest} (h : line.IsUsual)
    (credentials : Credentials) (payload : Object) :
    (postToProvider credentials payload line).2.IsUsual := by
  unfold postToProvider
  split
  · next accessToken phoneNumberId _ _ =>
    cases providerRequest accessToken phoneNumberId payload with
    | error error => exact h
    | ok request =>
      have hrest : (line.ask standardDelivery request).2.IsUsual := h.ask
      rcases hask : line.ask standardDelivery request with ⟨answer, rest⟩
      simp only [hask] at hrest ⊢
      cases answer <;> exact hrest
  · exact h

/-! ## Other services -/

theorem RenderedCall.standardAnswer_usual (number : Nat) : (standardAnswer number).IsUsual :=
  ⟨[], by rfl, trivial⟩

/-- A line that will give usual answers still will after a call was made. -/
theorem RenderedCall.perform_usual {line : Line WebRequest} (h : line.IsUsual)
    (call : RenderedCall) (timeout : Float) : (call.perform timeout line).2.IsUsual := by
  unfold perform
  cases call.request timeout with
  | error error => exact h
  | ok request =>
    have hrest : (line.ask standardAnswer request).2.IsUsual := h.ask
    rcases hask : line.ask standardAnswer request with ⟨answer, rest⟩
    simp only [hask] at hrest ⊢
    cases answer with
    | response status body =>
      simp only [Answer.toResponse]
      split <;> exact hrest
    | disconnected kind message | refused message | broken message => exact hrest

/-- A call that fails before it is made cannot be written. -/
theorem RenderedCall.request_error {call : RenderedCall} {timeout : Float} {error : CallError}
    (h : call.request timeout = .error error) : error.IsUnwritable := by
  simp only [request, requestUrl] at h
  cases hu : Url.ofText call.url with
  | error fault =>
    rw [hu] at h
    cases h
    trivial
  | ok url =>
    rw [hu] at h
    cases hc : checkHeaders call.headers with
    | error found =>
      rw [hc] at h
      cases h
      exact checkHeaders_error hc
    | ok _ =>
      rw [hc] at h
      cases hb : call.body.text? with
      | ok body =>
        rw [hb] at h
        cases h
      | error found =>
        rw [hb] at h
        cases h
        cases hbody : call.body with
        | absent | plain content => rw [hbody] at hb; cases hb
        | json value =>
          rw [hbody] at hb
          exact jsonBody_error hb

/-- **A call** that fails in a way that is not contained does so because the other service does not
answer as it should. -/
theorem RenderedCall.perform_fails {line : Line WebRequest} {call : RenderedCall}
    {timeout : Float} {error : CallError} (h : (call.perform timeout line).1 = .error error)
    (hk : error.kept? = none) : ¬ line.IsUsual := by
  unfold perform at h
  cases hr : call.request timeout with
  | error found =>
    rw [hr] at h
    cases h
    have hunwritable := request_error hr
    cases error with
    | url fault | header run | specialFloat => cases hk
    | disconnected kind message | refused message | broken message | noScheme url =>
      cases hunwritable
  | ok request =>
    have husual : line.IsUsual → (line.ask standardAnswer request).1.IsUsual :=
      fun hl => hl.answer standardAnswer_usual
    rw [hr] at h
    rcases hask : line.ask standardAnswer request with ⟨answer, rest⟩
    simp only [hask] at h husual
    cases answer with
    | response status body =>
      simp only [Answer.toResponse] at h
      split at h
      · cases h
        cases hk
      · cases h
    | disconnected kind message | refused message =>
      cases h
      cases hk
    | broken message =>
      cases h
      exact husual

end ChatFlow

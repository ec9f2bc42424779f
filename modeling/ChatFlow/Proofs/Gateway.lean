import Mathlib.Data.List.TakeWhile
import ChatFlow.Proofs.Node.Answers

/-!
# When posting to the provider raises

Whatever is posted to the provider, a `Delivery` should come back that tells what became of it. It
does, except in the cases of `Posting.Raises` (`Posting.post_spec`): the address or the
authorization cannot be written, the id of a message to be marked as read holds a float that JSON
has no number for, the way to the provider breaks otherwise than by a failed connection, or the
provider takes the message and gives its messages in a form of its own. A delivery that comes back
tells that the message was taken if and only if it was.

That the provider may have taken a message before the answer to it raises shows in
`post_foreign_messages`.
-/

namespace ChatFlow

/-! ## Answers that can be read -/

/-- What became of a message by the answer to it. -/
def Answer.delivery (answer : Answer) : Except Failure Delivery :=
  match answer.toResponse with
  | .ok (status, body) => readDelivery status body
  | .error (.disconnected _ message) => .ok (.failed (.text message) [])
  | .error error => .error (.call error)

@[simp] theorem Answer.delivery_response (status : Int) (body : String) :
    (response status body).delivery = readDelivery status body := rfl

/-- Whether it can be told of an answer what became of the message. -/
def Answer.IsHarmless (answer : Answer) : Prop :=
  ∃ delivery, answer.delivery = .ok delivery

/-- The fields of the object in JSON that a body is; any other body has none. -/
def bodyFields (body : String) : Object :=
  ((readJson? body).bind Value.object?).getD []

/-- Whether an answer tells that a message was not taken: by what happened on the way, by its status
or by an error that it names. -/
def Answer.IsRefusal : Answer → Prop
  | .response status body => 400 ≤ status ∨ (bodyFields body).field? "error" ≠ none
  | .disconnected _ _ | .refused _ | .broken _ => True

/-- The answers that raise: the way breaks otherwise than by a failed connection, or the message was
taken and the messages in the answer are of a foreign shape. -/
inductive Answer.Raises : Answer → Prop where
  | refused (message : String) : Raises (.refused message)
  | broken (message : String) : Raises (.broken message)
  | messages {status : Int} {body : String} (htaken : ¬ (response status body).IsRefusal)
      (hmessages : ¬ UsualMessages ((bodyFields body).get "messages")) :
      Raises (.response status body)

/-- The id of a message can be found in messages of the usual shape, and in no others. -/
theorem takenMessageId_ok_iff {fields : Object} :
    (∃ id, takenMessageId fields = .ok id) ↔ UsualMessages (fields.get "messages") := by
  refine ⟨?_, takenMessageId_usual⟩
  rintro ⟨id, hid⟩
  unfold takenMessageId Value.orElse at hid
  unfold UsualMessages Value.orElse
  cases ht : (fields.get "messages").isTruthy with
  | false => trivial
  | true =>
    rw [ht] at hid
    simp only [if_true] at hid ⊢
    split at hid <;> try cases hid
    · next first rest hm =>
      rw [hm]
      trivial
    · next hm =>
      rw [hm]
      trivial

/-- A delivery that tells that the message was taken. -/
def Delivery.taken (id : Value) (raw : Object) : Delivery := ⟨true, id, .null, raw⟩

/-- By a refusal, the message was not taken. -/
theorem readDelivery_refusal {status : Int} {body : String}
    (h : (Answer.response status body).IsRefusal) :
    ∃ error, readDelivery status body = .ok (.failed error (bodyFields body)) := by
  simp only [readDelivery]
  split
  · exact ⟨_, rfl⟩
  · exact ⟨_, rfl⟩
  · next hnone =>
    have hstatus : 400 ≤ status := h.resolve_right (not_not_intro hnone)
    rw [if_pos hstatus]
    exact ⟨_, rfl⟩

/-- By any other response, the message was taken, and its id is looked up. -/
theorem readDelivery_taken {status : Int} {body : String}
    (h : ¬ (Answer.response status body).IsRefusal) :
    readDelivery status body =
      (takenMessageId (bodyFields body)).map fun id => .taken id (bodyFields body) := by
  obtain ⟨hstatus, herror⟩ := not_or.1 h
  have hnone : (bodyFields body).field? "error" = none := Classical.not_not.1 herror
  simp only [readDelivery, ← bodyFields.eq_1, hnone, if_neg hstatus]
  cases takenMessageId (bodyFields body) <;> rfl

namespace Answer

/-- **What an answer tells.** It is a delivery unless the answer raises, and the delivery tells that
the message was taken unless the answer is a refusal. -/
theorem delivery_spec (answer : Answer) :
    (answer.Raises ∧ ∃ failure, answer.delivery = .error failure) ∨
      (¬ answer.Raises ∧ ∃ delivery, answer.delivery = .ok delivery ∧
        (delivery.ok = true ↔ ¬ answer.IsRefusal)) := by
  cases answer with
  | refused message => exact .inl ⟨.refused message, _, rfl⟩
  | broken message => exact .inl ⟨.broken message, _, rfl⟩
  | disconnected kind message =>
    refine .inr ⟨(nomatch ·), _, rfl, ?_⟩
    exact iff_of_false Bool.false_ne_true (not_not_intro trivial)
  | response status body =>
    by_cases hrefusal : (response status body).IsRefusal
    · obtain ⟨error, hdelivery⟩ := readDelivery_refusal hrefusal
      refine .inr ⟨?_, _, hdelivery, ?_⟩
      · rintro ⟨⟩
        contradiction
      · exact iff_of_false Bool.false_ne_true (not_not_intro hrefusal)
    · rw [delivery_response, readDelivery_taken hrefusal]
      cases hid : takenMessageId (bodyFields body) with
      | ok id =>
        have husual := takenMessageId_ok_iff.1 ⟨id, hid⟩
        refine .inr ⟨?_, _, rfl, iff_of_true rfl hrefusal⟩
        rintro ⟨⟩
        contradiction
      | error failure =>
        refine .inl ⟨.messages hrefusal fun husual => ?_, _, rfl⟩
        obtain ⟨id, hok⟩ := takenMessageId_ok_iff.2 husual
        rw [hid] at hok
        cases hok

/-- An answer is harmless unless it raises. -/
theorem isHarmless_iff {answer : Answer} : answer.IsHarmless ↔ ¬ answer.Raises := by
  unfold IsHarmless
  rcases answer.delivery_spec with ⟨hraises, failure, hdelivery⟩ | ⟨hnot, delivery, hdelivery, -⟩
  · refine iff_of_false ?_ (not_not_intro hraises)
    rintro ⟨delivery, hok⟩
    rw [hdelivery] at hok
    cases hok
  · exact iff_of_true ⟨delivery, hdelivery⟩ hnot

/-- A connection that failed is harmless. -/
theorem isHarmless_disconnected (kind message : String) :
    (disconnected kind message).IsHarmless :=
  ⟨_, rfl⟩

/-- A usual answer is harmless. -/
theorem IsUsual.isHarmless {answer : Answer} (h : answer.IsUsual) : answer.IsHarmless := by
  cases answer with
  | response status body => exact readDelivery_usual h
  | disconnected kind message => exact isHarmless_disconnected kind message
  | refused message | broken message => exact h.elim

end Answer

/-! ## Posting -/

/-- Whether credentials hold a token and the id of a phone number, neither of them empty. -/
def Credentials.Hold (credentials : Credentials) (accessToken phoneNumberId : String) : Prop :=
  presentText? credentials.accessToken = some accessToken ∧
    presentText? credentials.phoneNumberId = some phoneNumberId

/-- Credentials hold one token and one id. -/
theorem Credentials.Hold.unique {credentials : Credentials} {token₁ token₂ phone₁ phone₂ : String}
    (h₁ : credentials.Hold token₁ phone₁) (h₂ : credentials.Hold token₂ phone₂) :
    token₁ = token₂ ∧ phone₁ = phone₂ :=
  ⟨Option.some.inj (h₁.1.symm.trans h₂.1), Option.some.inj (h₁.2.symm.trans h₂.2)⟩

/-- Credentials that do not hold both lack one of them. -/
theorem Credentials.missing_of_not_hold {credentials : Credentials}
    (h : ¬ ∃ accessToken phoneNumberId, credentials.Hold accessToken phoneNumberId) :
    presentText? credentials.accessToken = none ∨
      presentText? credentials.phoneNumberId = none := by
  cases htoken : presentText? credentials.accessToken with
  | none => exact .inl rfl
  | some accessToken =>
  cases hphone : presentText? credentials.phoneNumberId with
  | none => exact .inr rfl
  | some phoneNumberId => exact absurd ⟨_, _, htoken, hphone⟩ h

/-- The answer that the provider gives next. -/
def Line.coming (line : Line ProviderRequest) : Answer :=
  line.answers.headD (standardDelivery (line.standard + 1))

theorem Line.ask_fst (line : Line ProviderRequest) (request : ProviderRequest) :
    (line.ask standardDelivery request).1 = line.coming := by
  unfold Line.ask coming
  cases line.answers <;> rfl

/-- What is posted if there are credentials: it asks on the line, unless the request cannot be
written, and reads the answer. -/
theorem postToProvider_eq {credentials : Credentials} {accessToken phoneNumberId : String}
    (htoken : presentText? credentials.accessToken = some accessToken)
    (hphone : presentText? credentials.phoneNumberId = some phoneNumberId) (payload : Object)
    (line : Line ProviderRequest) :
    postToProvider credentials payload line =
      match providerRequest accessToken phoneNumberId payload with
      | .error error => (.error (.call error), line)
      | .ok request => (line.coming.delivery, (line.ask standardDelivery request).2) := by
  unfold postToProvider
  rw [htoken, hphone]
  dsimp only
  cases providerRequest accessToken phoneNumberId payload with
  | error error => rfl
  | ok request =>
    have hanswer := line.ask_fst request
    dsimp only
    generalize line.ask standardDelivery request = asked at hanswer ⊢
    obtain ⟨answer, rest⟩ := asked
    obtain rfl : answer = line.coming := hanswer
    unfold Answer.delivery
    dsimp only
    cases line.coming <;> rfl

/-- Nothing is posted without credentials. -/
theorem postToProvider_missing {credentials : Credentials}
    (h : presentText? credentials.accessToken = none ∨
      presentText? credentials.phoneNumberId = none)
    (payload : Object) (line : Line ProviderRequest) :
    postToProvider credentials payload line =
      (.ok (.failed (.text "WhatsApp credentials missing") []), line) := by
  unfold postToProvider
  split
  · next htoken hphone =>
    rw [htoken, hphone] at h
    rcases h with h | h <;> cases h
  · rfl

/-- Posting a payload asks on the line, unless the request cannot be made, and reads the answer. -/
theorem postToProvider_ask (credentials : Credentials) (payload : Object) :
    (∃ result, ∀ line, postToProvider credentials payload line = (result, line)) ∨
      ∃ request, ∀ line, postToProvider credentials payload line =
        ((line.ask standardDelivery request).1.delivery,
          (line.ask standardDelivery request).2) := by
  cases htoken : presentText? credentials.accessToken with
  | none => exact .inl ⟨_, postToProvider_missing (.inl htoken) payload⟩
  | some accessToken =>
  cases hphone : presentText? credentials.phoneNumberId with
  | none => exact .inl ⟨_, postToProvider_missing (.inr hphone) payload⟩
  | some phoneNumberId =>
  cases hrequest : providerRequest accessToken phoneNumberId payload with
  | error error =>
    refine .inl ⟨.error (.call error), fun line => ?_⟩
    rw [postToProvider_eq htoken hphone, hrequest]
  | ok request =>
    refine .inr ⟨request, fun line => ?_⟩
    rw [postToProvider_eq htoken hphone, hrequest, Line.ask_fst]

/-! ## Requests that can be written -/

/-- No run of characters beyond ASCII is found in a text of which every character is ASCII. -/
theorem beyondAscii?_eq_none_iff {s : String} :
    beyondAscii? s = none ↔ ∀ c ∈ s.toList, c.toNat < 0x80 := by
  have hrest : s.toList.drop (s.toList.takeWhile (·.toNat < 0x80)).length =
      s.toList.dropWhile (·.toNat < 0x80) := by
    have hsplit : s.toList.takeWhile (·.toNat < 0x80) ++ s.toList.dropWhile (·.toNat < 0x80) =
        s.toList := List.takeWhile_append_dropWhile
    have hdrop := congrArg (List.drop (s.toList.takeWhile (·.toNat < 0x80)).length) hsplit
    rw [List.drop_left] at hdrop
    exact hdrop.symm
  have hnone : beyondAscii? s = none ↔ s.toList.dropWhile (·.toNat < 0x80) = [] := by
    rw [← hrest, beyondAscii?]
    split
    · next hnil => exact iff_of_true rfl hnil
    · next c rest hcons =>
      rw [hcons]
      exact iff_of_false nofun nofun
  rw [hnone, List.dropWhile_eq_nil_iff]
  simp only [decide_eq_true_eq]

/-- The authorization can be written if the token is ASCII. -/
theorem checkHeaders_authorization_iff {accessToken : String} :
    (∃ error, checkHeaders [("Authorization", "Bearer " ++ accessToken)] = .error error) ↔
      ∃ c ∈ accessToken.toList, 0x80 ≤ c.toNat := by
  have hname : beyondAscii? "Authorization" = none := by decide
  have hscheme : ∀ c ∈ "Bearer ".toList, c.toNat < 0x80 := beyondAscii?_eq_none_iff.1 (by decide)
  have hvalue : beyondAscii? ("Bearer " ++ accessToken) = none ↔
      ∀ c ∈ accessToken.toList, c.toNat < 0x80 := by
    rw [beyondAscii?_eq_none_iff, String.toList_append]
    refine ⟨fun h c hc => h c (List.mem_append_right _ hc), fun h c hc => ?_⟩
    exact (List.mem_append.1 hc).elim (hscheme c) (h c)
  simp only [checkHeaders, hname, Option.none_or]
  cases hrun : beyondAscii? ("Bearer " ++ accessToken) with
  | none =>
    have hascii := hvalue.1 hrun
    refine iff_of_false ?_ ?_
    · rintro ⟨error, herror⟩
      cases herror
    · rintro ⟨c, hc, hbeyond⟩
      exact absurd (hascii c hc) (Nat.not_lt.2 hbeyond)
  | some run =>
    have hnot : ¬ ∀ c ∈ accessToken.toList, c.toNat < 0x80 := by
      rw [← hvalue, hrun]
      exact Option.some_ne_none run
    simp only [Classical.not_forall, Nat.not_lt, exists_prop] at hnot
    exact iff_of_true ⟨_, rfl⟩ hnot

/-- A request that is posted can be written if its address, its authorization and its payload
can. -/
theorem providerRequest_error_iff {accessToken phoneNumberId : String} {payload : Object} :
    (∃ error, providerRequest accessToken phoneNumberId payload = .error error) ↔
      (∃ fault, Url.ofText (messagesUrl phoneNumberId) = .error fault) ∨
        (∃ c ∈ accessToken.toList, 0x80 ≤ c.toNat) ∨
        (Value.object payload).hasSpecialFloat = true := by
  rw [← checkHeaders_authorization_iff]
  simp only [providerRequest, requestUrl, jsonBody]
  cases Url.ofText (messagesUrl phoneNumberId) with
  | error fault => exact iff_of_true ⟨_, rfl⟩ (.inl ⟨fault, rfl⟩)
  | ok url =>
  cases checkHeaders [("Authorization", "Bearer " ++ accessToken)] with
  | error error => exact iff_of_true ⟨_, rfl⟩ (.inr (.inl ⟨error, rfl⟩))
  | ok checked =>
  cases (Value.object payload).hasSpecialFloat with
  | true => exact iff_of_true ⟨_, rfl⟩ (.inr (.inr rfl))
  | false =>
    refine iff_of_false ?_ ?_
    · rintro ⟨error, h⟩
      cases h
    · rintro (⟨fault, h⟩ | ⟨error, h⟩ | h) <;> cases h

/-! ## Payloads without special floats -/

theorem anySpecialItem_map {α : Type} {f : α → Value} (h : ∀ a, (f a).hasSpecialFloat = false)
    (items : List α) : anySpecialItem (items.map f) = false := by
  induction items with
  | nil => rfl
  | cons item items ih => rw [List.map_cons, anySpecialItem, h item, ih, Bool.or_self]

theorem anySpecialField_append (fields₁ fields₂ : Object) :
    anySpecialField (fields₁ ++ fields₂) =
      (anySpecialField fields₁ || anySpecialField fields₂) := by
  induction fields₁ with
  | nil => rfl
  | cons field fields₁ ih =>
    rw [List.cons_append, anySpecialField, anySpecialField, ih, Bool.or_assoc]

theorem anySpecialField_presentField (name : String) (text : Option String) :
    anySpecialField (presentField name text) = false := by
  unfold presentField
  split <;> rfl

theorem anySpecialField_frameFields (frame : Frame) :
    anySpecialField (frameFields frame) = false := by
  rw [frameFields, anySpecialField_append]
  cases presentText? frame.header <;> cases presentText? frame.footer <;> rfl

theorem Button.payload_special (button : Button) : button.payload.hasSpecialFloat = false := rfl

theorem ListRow.payload_special (row : ListRow) : row.payload.hasSpecialFloat = false := by
  simp only [payload, Value.hasSpecialFloat, anySpecialField_append, anySpecialField_presentField,
    anySpecialField, Bool.or_self]

theorem ListSection.payload_special (part : ListSection) :
    part.payload.hasSpecialFloat = false := by
  simp only [payload, Value.hasSpecialFloat, anySpecialField_append, anySpecialField_presentField,
    anySpecialField, anySpecialItem_map ListRow.payload_special, Bool.or_self]

theorem Contact.payload_special (contact : Contact) : contact.payload.hasSpecialFloat = false := by
  have hentries : ∀ (key kind : String) (entry : Option String),
      anySpecialItem (((presentText? entry).map fun s =>
        Value.object [(key, .text s), ("type", .text kind)]).toList) = false := by
    intro key kind entry
    cases presentText? entry <;> rfl
  simp only [payload, Value.hasSpecialFloat, anySpecialField, hentries, Bool.or_self]

/-- No message holds a float that JSON has no number for. -/
theorem OutboundMessage.payload_special (message : OutboundMessage) (recipient : String) :
    (Value.object (message.payload recipient)).hasSpecialFloat = false := by
  have hcontent : message.content.2.hasSpecialFloat = false := by
    cases message <;>
      simp only [content, interactivePayload, Value.hasSpecialFloat, anySpecialField,
        anySpecialField_append, anySpecialField_presentField, anySpecialField_frameFields,
        anySpecialItem_map Button.payload_special, anySpecialItem_map ListSection.payload_special,
        anySpecialItem_map Contact.payload_special, Bool.or_self]
  simp only [payload, productField, Value.hasSpecialFloat, anySpecialField, hcontent, Bool.or_self]

/-! ## What is posted -/

/-- What is posted to the provider: a message to a recipient, or the id of a message to be marked as
read. -/
inductive Posting where
  | send (message : OutboundMessage) (recipient : String)
  | markRead (messageId : Value)

namespace Posting

/-- What is posted in the form that the provider takes. -/
def payload : Posting → Object
  | send message recipient => message.payload recipient
  | markRead messageId => readPayload messageId

/-- Posts it and reads what became of it. -/
def post (posting : Posting) (credentials : Credentials) (line : Line ProviderRequest) :
    Except Failure Delivery :=
  (postToProvider credentials posting.payload line).1

/-- The ways in which posting raises, by the answer that comes next. -/
inductive Raises (posting : Posting) (credentials : Credentials) (answer : Answer) : Prop where
  | address (accessToken phoneNumberId : String) (hold : credentials.Hold accessToken phoneNumberId)
      (fault : UrlFault) (h : Url.ofText (messagesUrl phoneNumberId) = .error fault)
  | authorization (accessToken phoneNumberId : String)
      (hold : credentials.Hold accessToken phoneNumberId)
      (c : Char) (hc : c ∈ accessToken.toList) (hbeyond : 0x80 ≤ c.toNat)
  | messageId (accessToken phoneNumberId : String)
      (hold : credentials.Hold accessToken phoneNumberId)
      (id : Value) (hid : posting = markRead id) (hspecial : id.hasSpecialFloat = true)
  | answer (accessToken phoneNumberId : String) (hold : credentials.Hold accessToken phoneNumberId)
      (h : answer.Raises)

end Posting

end ChatFlow

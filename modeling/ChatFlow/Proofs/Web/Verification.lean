import ChatFlow.Proofs.Web.Deliveries

/-!
# The verification of addresses

Before the provider delivers to an address it asks whether the address belongs to a channel. The
answer is yes if what the request carries for a token is what the channel has for one. A request
without a token carries nothing, and a channel without a token has nothing; so the answer is also
yes to a request that shows no secret, if there is none (`WebCall.NeedsNoSecret`). Only the token of
a channel that has one, and not the empty one, keeps strangers from having the address confirmed.

Main statement: `World.confirms_iff`, all requests to which the answer is yes.
-/

namespace ChatFlow

/-! ## Tokens -/

namespace WebCall

/-- What a request carries for the token of a channel. -/
def token? (call : WebCall) : Option String := call.parameter? "hub.verify_token"

/-- Whether a request shows the secret of a channel, a token that is not empty. -/
def ShowsSecret (call : WebCall) (channel : Channel) : Prop :=
  ∃ token, token ≠ "" ∧ channel.verifyToken = some token ∧ call.token? = some token

/-- Whether a request agrees with a channel that has no secret. -/
inductive NeedsNoSecret (call : WebCall) (channel : Channel) : Prop where
  /-- The channel has no token, and the request carries none. -/
  | unset (hchannel : channel.verifyToken = none) (hcall : call.token? = none)
  /-- The token of the channel is empty, and so is what the request carries. -/
  | empty (hchannel : channel.verifyToken = some "") (hcall : call.token? = some "")

/-- A request and a channel agree on a token in three ways, of which one needs a secret. -/
theorem token?_eq_iff (call : WebCall) (channel : Channel) :
    call.token? = channel.verifyToken ↔ call.ShowsSecret channel ∨ call.NeedsNoSecret channel := by
  constructor
  · intro h
    cases htoken : channel.verifyToken with
    | none => exact .inr (.unset htoken (h.trans htoken))
    | some token =>
      by_cases hempty : token = ""
      · subst hempty
        exact .inr (.empty htoken (h.trans htoken))
      · exact .inl ⟨token, hempty, htoken, h.trans htoken⟩
  · rintro (⟨token, -, hchannel, hcall⟩ | hchannel | hchannel)
    · rw [hchannel, hcall]
    · next hcall => rw [hchannel, hcall]
    · next hcall => rw [hchannel, hcall]

/-- The reply that confirms an address: the challenge that the request carries. -/
def confirmation (call : WebCall) : Reply :=
  ⟨200, .plain ((call.parameter? "hub.challenge").getD "")⟩

end WebCall

/-- The channel that is used under an id bears the id and is active. -/
theorem Channels.usable?_some {channels : Channels} {id : String} {channel : Channel}
    (h : channels.usable? (some id) = some channel) :
    channel ∈ channels ∧ channel.id = id ∧ channel.isActive = true := by
  have hfound := List.find?_some h
  rw [Bool.and_eq_true, beq_iff_eq, Option.some.injEq] at hfound
  exact ⟨List.mem_of_find?_eq_some h, hfound⟩

/-! ## Requests -/

/-- Whether a request asks in the provider's words to have an address confirmed, for a channel that
can be used and with what this channel has for a token. -/
def World.AgreesWith (w : World) (id : String) (call : WebCall) : Prop :=
  call.parameter? "hub.mode" = some "subscribe" ∧
    ∃ channel, w.channels.usable? (some id) = some channel ∧ call.token? = channel.verifyToken

namespace World

variable {w : World} {call : WebCall} {id : String}

/-- A request for the address of a channel is answered by asking whether the address belongs to
it. -/
theorem run_answer_webhook (w : World) (hroute : Route.ofPath? call.path = some (.webhook id))
    (hmethod : call.method = "GET") :
    call.answer.run w = (.ofResult ((verifyWebhook id call).exec w).1, w) := by
  have hanswer : (Route.webhook id).answer call = verifyWebhook id call := by
    rw [Route.answer]
    exact hmethod
  rw [WebCall.run_answer, hroute]
  dsimp only
  rw [hanswer, WebCall.exec_verifyWebhook]

/-- An address is confirmed if the request agrees with the channel. -/
theorem AgreesWith.exec_verifyWebhook (h : w.AgreesWith id call) :
    ((verifyWebhook id call).exec w).1 = .ok call.confirmation := by
  obtain ⟨hmode, channel, husable, htoken⟩ := h
  have hcarried : call.parameter? "hub.verify_token" = channel.verifyToken := htoken
  unfold verifyWebhook
  rw [if_neg (by simpa using hmode)]
  simp only [Work.exec_bind, Work.exec_get, Work.proceed_ok, husable]
  rw [if_neg (by simpa using hcarried)]
  rfl

/-- It is refused if it does not. -/
theorem exec_verifyWebhook_refused (h : ¬ w.AgreesWith id call) :
    ∃ status detail, status ≠ 200 ∧
      ((verifyWebhook id call).exec w).1 = .ok (.refused status detail) := by
  unfold verifyWebhook
  by_cases hmode : call.parameter? "hub.mode" = some "subscribe"
  · rw [if_neg (by simpa using hmode)]
    simp only [Work.exec_bind, Work.exec_get, Work.proceed_ok]
    cases hchannel : w.channels.usable? (some id) with
    | none => exact ⟨404, _, by decide, rfl⟩
    | some channel =>
      have hother : call.parameter? "hub.verify_token" ≠ channel.verifyToken :=
        fun htoken => h ⟨hmode, channel, hchannel, htoken⟩
      dsimp only
      rw [if_pos (by simpa using hother)]
      exact ⟨403, _, by decide, rfl⟩
  · rw [if_pos (by simpa using hmode)]
    exact ⟨403, _, by decide, rfl⟩

/-- A request agrees with the active channel of an id by its secret, or without one. -/
theorem agreesWith_iff :
    w.AgreesWith id call ↔ call.parameter? "hub.mode" = some "subscribe" ∧
      ∃ channel ∈ w.channels, channel.id = id ∧ channel.isActive = true ∧
        w.channels.usable? (some id) = some channel ∧
        (call.ShowsSecret channel ∨ call.NeedsNoSecret channel) := by
  refine and_congr_right fun _ => ⟨?_, ?_⟩
  · rintro ⟨channel, husable, hagrees⟩
    obtain ⟨hmem, hid, hactive⟩ := Channels.usable?_some husable
    exact ⟨channel, hmem, hid, hactive, husable, (call.token?_eq_iff channel).1 hagrees⟩
  · rintro ⟨channel, -, -, -, husable, hagrees⟩
    exact ⟨channel, husable, (call.token?_eq_iff channel).2 hagrees⟩

/-- **The requests to which the answer is yes.** Let a request ask whether an address belongs to a
channel. It changes nothing, whatever the channels are and whatever the request carries. The answer
is yes if and only if the request asks in the provider's words, the channel is there and active, and
the request shows its secret; or the channel has no secret, and the request carries as little. The
reply is then the challenge that the request carries. -/
theorem confirms_iff (w : World) (hroute : Route.ofPath? call.path = some (.webhook id))
    (hmethod : call.method = "GET") :
    ((call.answer.run w).1.status = 200 ↔
      call.parameter? "hub.mode" = some "subscribe" ∧
        ∃ channel ∈ w.channels, channel.id = id ∧ channel.isActive = true ∧
          w.channels.usable? (some id) = some channel ∧
          (call.ShowsSecret channel ∨ call.NeedsNoSecret channel)) ∧
      ((call.answer.run w).1.status = 200 → (call.answer.run w).1 = call.confirmation) ∧
      (call.answer.run w).2 = w := by
  rw [run_answer_webhook w hroute hmethod, ← agreesWith_iff]
  by_cases h : w.AgreesWith id call
  · rw [h.exec_verifyWebhook]
    exact ⟨⟨fun _ => h, fun _ => rfl⟩, fun _ => rfl, rfl⟩
  · obtain ⟨status, detail, hstatus, hreply⟩ := exec_verifyWebhook_refused h
    rw [hreply]
    -- a refusal is sent as it is, or cannot be sent
    have hrefused : (Reply.ofResult (.ok (.refused status detail))).status ≠ 200 := by
      simp only [Reply.ofResult, Reply.sent, Reply.refused]
      split
      · decide
      · exact hstatus
    exact ⟨⟨fun hyes => absurd hyes hrefused, fun hagrees => absurd hagrees h⟩,
      fun hyes => absurd hyes hrefused, rfl⟩

/-- A world with a channel that has a token or none. -/
def withToken (token : Option String) : World :=
  { reached with channels := [⟨"c", none, some "100", none, some "token", token, true⟩] }

/-- A request to have the address of the channel confirmed, with or without a token. -/
def confirmationCall (token? : Option String) : WebCall where
  method := "GET"
  path := "/webhook/c"
  parameters := [("hub.mode", "subscribe"), ("hub.challenge", "1158201444")] ++
    (token?.map fun token => ("hub.verify_token", token)).toList
  body := ""

theorem route_confirmationCall (token? : Option String) :
    Route.ofPath? (confirmationCall token?).path = some (.webhook "c") := by
  cbv

/-- With the channel's token the answer is the challenge, and without one it is not. -/
theorem confirms_iff_secret :
    ((confirmationCall (some "verify-me")).answer.run (withToken (some "verify-me"))).1 =
        ⟨200, .plain "1158201444"⟩ ∧
      ((confirmationCall none).answer.run (withToken (some "verify-me"))).1.status ≠ 200 := by
  obtain ⟨hshown, hreply, -⟩ := confirms_iff (withToken (some "verify-me"))
    (route_confirmationCall (some "verify-me")) rfl
  obtain ⟨hhidden, -⟩ := confirms_iff (withToken (some "verify-me"))
    (route_confirmationCall none) rfl
  refine ⟨hreply (hshown.2 ⟨by rfl, _, List.mem_singleton_self _, rfl, rfl, by rfl, .inl ?_⟩), ?_⟩
  · exact ⟨"verify-me", by decide, rfl, by rfl⟩
  · intro hstatus
    obtain ⟨-, channel, hmem, -, -, -, hagrees⟩ := hhidden.1 hstatus
    obtain rfl := List.mem_singleton.1 hmem
    rcases hagrees with ⟨token, -, -, htoken⟩ | hunset | hempty
    · cases htoken
    · cases hunset
    · next htoken => cases htoken

/-- **An address is confirmed without a secret** if the channel has no token and the request carries
none, and also if both are empty. -/
theorem confirms_without_secret :
    (confirmationCall none).token? = none ∧
      ((confirmationCall none).answer.run (withToken none)).1 = ⟨200, .plain "1158201444"⟩ ∧
      ((confirmationCall (some "")).answer.run (withToken (some ""))).1 =
        ⟨200, .plain "1158201444"⟩ := by
  have hagrees : ∀ token?, (confirmationCall token?).token? = token? →
      ((confirmationCall token?).answer.run (withToken token?)).1 =
        .ofResult (.ok (confirmationCall token?).confirmation) := by
    intro token? htoken
    have h : (withToken token?).AgreesWith "c" (confirmationCall token?) :=
      ⟨by cases token? <;> rfl, _, by rfl, htoken⟩
    rw [run_answer_webhook _ (route_confirmationCall token?) rfl, h.exec_verifyWebhook]
  exact ⟨by rfl, hagrees none (by rfl), hagrees (some "") (by rfl)⟩

end World

end ChatFlow

import ChatFlow.Proofs.Message.Texts

/-!
# The limits of interactive messages

Of the buttons of a message the first three are sent, and of a section of a list the first ten rows,
each with the id that it is configured with and with what its texts render to, cut off where they
are too long. `OutboundMessage.SentAs` says what a payload is made of: of buttons, rows and sections
as they are, and not cut off any further.

Main statement: `FlowNode.posts_within_limits`. The provider counts the rows of a message, not those
of a section, so a list with two sections can be sent with too many rows
(`FlowNode.posts_many_rows`).
-/

namespace ChatFlow

/-! ## Texts that are cut off -/

/-- What is sent of a text: its beginning, no longer than the limit, and all of it if it is short
enough. -/
structure CutTo (limit : Nat) (whole sent : String) : Prop where
  length_le : sent.length ≤ limit
  isPrefix : sent.toList <+: whole.toList
  eq_of_le : whole.length ≤ limit → sent = whole

theorem cutTo_takeText (limit : Nat) (whole : String) :
    CutTo limit whole (takeText limit whole) where
  length_le := by
    rw [takeText, ← String.length_toList, String.toList_ofList]
    exact List.length_take_le _ _
  isPrefix := by
    rw [takeText, String.toList_ofList]
    exact List.take_prefix _ _
  eq_of_le h := by
    rw [takeText, List.take_of_length_le (by rwa [String.length_toList]), String.ofList_toList]

/-- What is sent of a text that may be absent. -/
inductive CutPart (limit : Nat) : Option String → Option String → Prop where
  | absent : CutPart limit none none
  | present {whole sent : String} (h : CutTo limit whole sent) :
      CutPart limit (some whole) (some sent)

/-! ## Parts of messages that are not cut off any further -/

/-- A button in the provider's form. -/
def Button.wire (button : Button) : Value :=
  .object [("type", .text "reply"),
    ("reply", .object [("id", .text button.id), ("title", .text button.title)])]

/-- A row in the provider's form. -/
def ListRow.wire (row : ListRow) : Value :=
  .object ([("id", .text row.id), ("title", .text row.title)]
    ++ presentField "description" row.description)

/-- A section in the provider's form. -/
def ListSection.wire (part : ListSection) : Value :=
  .object ([("rows", .list (part.rows.map ListRow.wire))] ++ presentField "title" (some part.title))

/-- What is left of a button. -/
def Button.cut (button : Button) : Button :=
  { button with title := takeText longestButtonTitle button.title }

/-- What is left of a row. -/
def ListRow.cut (row : ListRow) : ListRow :=
  { row with
    title := takeText longestListTitle row.title
    description := row.description.map (takeText longestRowDescription) }

/-- What is left of a section. -/
def ListSection.cut (part : ListSection) : ListSection :=
  ⟨takeText longestListTitle part.title, (part.rows.take mostRows).map ListRow.cut⟩

theorem ListSection.payload_eq (part : ListSection) : part.payload = part.cut.wire := by
  rw [payload, wire, cut, List.map_map]
  rfl

/-! ## What is sent -/

section

variable (f : String → String)

/-- A button and what is sent of it, if something was done to its title before. -/
structure Button.SentAs (button sent : Button) : Prop where
  id : sent.id = button.id
  title : CutTo longestButtonTitle (f button.title) sent.title

/-- A row and what is sent of it, if something was done to its texts before. -/
structure ListRow.SentAs (row sent : ListRow) : Prop where
  id : sent.id = row.id
  title : CutTo longestListTitle (f row.title) sent.title
  description : CutPart longestRowDescription (row.description.map f) sent.description

/-- A section and what is sent of it, if something was done to its texts before: its first rows, in
their order. -/
structure ListSection.SentAs (part sent : ListSection) : Prop where
  title : CutTo longestListTitle (f part.title) sent.title
  few : sent.rows.length ≤ mostRows
  rows : List.Forall₂ (ListRow.SentAs f) (part.rows.take mostRows) sent.rows

/-- The payload of a message to a recipient whose content is interactive. -/
def interactiveMessage (recipient : String) (content : Value) : Object :=
  [productField, ("to", .text recipient), ("type", .text "interactive"), ("interactive", content)]

/-- An interactive message and the payload that it is sent as, if something was done to its texts
before: the first buttons, in their order, or all sections, in their order. -/
inductive OutboundMessage.SentAs (recipient : String) : OutboundMessage → Object → Prop where
  | buttons (body : String) (frame : Frame) {choices sent : List Button}
      (few : sent.length ≤ mostButtons)
      (kept : List.Forall₂ (Button.SentAs f) (choices.take mostButtons) sent) :
      SentAs recipient (.buttons body frame choices)
        (interactiveMessage recipient (interactivePayload "button" (f body) (frame.mapTexts f)
          [("buttons", .list (sent.map Button.wire))]))
  | list (body : String) (frame : Frame) {button label : String} {sections sent : List ListSection}
      (label_cut : CutTo longestListButton button label)
      (kept : List.Forall₂ (ListSection.SentAs f) sections sent)
      (rows : (sent.flatMap ListSection.rows).length =
        (sections.map fun part => min mostRows part.rows.length).sum) :
      SentAs recipient (.list body button frame sections)
        (interactiveMessage recipient (interactivePayload "list" (f body) (frame.mapTexts f)
          [("button", .text label), ("sections", .list (sent.map ListSection.wire))]))

end

variable {f : String → String}

theorem Button.sentAs_cut (button : Button) : button.SentAs f (button.mapTexts f).cut :=
  ⟨rfl, cutTo_takeText _ _⟩

theorem ListRow.sentAs_cut (row : ListRow) : row.SentAs f (row.mapTexts f).cut := by
  refine ⟨rfl, cutTo_takeText _ _, ?_⟩
  rcases row with ⟨id, title, _ | description⟩
  · exact .absent
  · exact .present (cutTo_takeText _ _)

theorem ListSection.sentAs_cut (part : ListSection) : part.SentAs f (part.mapTexts f).cut := by
  have hrows : (part.mapTexts f).cut.rows =
      (part.rows.take mostRows).map fun row => (row.mapTexts f).cut := by
    rw [cut, mapTexts, ← List.map_take, List.map_map]
    rfl
  refine ⟨cutTo_takeText _ _, ?_, ?_⟩
  · rw [hrows, List.length_map]
    exact List.length_take_le _ _
  · rw [hrows, List.forall₂_map_right_iff, List.forall₂_same]
    exact fun row _ => row.sentAs_cut

/-- A message with buttons is sent as its first buttons are cut off. -/
theorem OutboundMessage.sentAs_buttons (recipient body : String) (frame : Frame)
    (choices : List Button) :
    SentAs f recipient (.buttons body frame choices)
      (((OutboundMessage.buttons body frame choices).mapTexts f).payload recipient) := by
  have hwire : ((choices.map (Button.mapTexts f)).take mostButtons).map Button.payload =
      ((choices.take mostButtons).map fun button => (button.mapTexts f).cut).map Button.wire := by
    rw [← List.map_take, List.map_map, List.map_map]
    rfl
  show SentAs f recipient _ (interactiveMessage recipient (interactivePayload "button" (f body)
    (frame.mapTexts f) [("buttons", .list (((choices.map (Button.mapTexts f)).take mostButtons).map
      Button.payload))]))
  rw [hwire]
  refine .buttons body frame ?_ ?_
  · rw [List.length_map]
    exact List.length_take_le _ _
  · rw [List.forall₂_map_right_iff, List.forall₂_same]
    exact fun button _ => button.sentAs_cut

/-- As many rows are left of each section as are in it, up to the limit. -/
theorem ListSection.length_flatMap_cut (sections : List ListSection) :
    ((sections.map fun part => (part.mapTexts f).cut).flatMap ListSection.rows).length =
      (sections.map fun part => min mostRows part.rows.length).sum := by
  rw [List.length_flatMap, List.map_map]
  refine congrArg List.sum (List.map_congr_left fun part _ => ?_)
  simp only [Function.comp_apply, cut, mapTexts, List.length_map, List.length_take]

/-- A list message is sent as its sections are cut off. -/
theorem OutboundMessage.sentAs_list (recipient body button : String) (frame : Frame)
    (sections : List ListSection) :
    SentAs f recipient (.list body button frame sections)
      (((OutboundMessage.list body button frame sections).mapTexts f).payload recipient) := by
  have hwire : (sections.map (ListSection.mapTexts f)).map ListSection.payload =
      (sections.map fun part => (part.mapTexts f).cut).map ListSection.wire := by
    rw [List.map_map, List.map_map]
    exact List.map_congr_left fun part _ => (part.mapTexts f).payload_eq
  show SentAs f recipient _ (interactiveMessage recipient (interactivePayload "list" (f body)
    (frame.mapTexts f) [("button", .text (takeText longestListButton button)),
      ("sections", .list ((sections.map (ListSection.mapTexts f)).map ListSection.payload))]))
  rw [hwire]
  refine .list body frame (cutTo_takeText _ _) ?_ (ListSection.length_flatMap_cut sections)
  rw [List.forall₂_map_right_iff, List.forall₂_same]
  exact fun part _ => part.sentAs_cut

/-! ## What is posted -/

variable (recipient : Recipient) {node : FlowNode} {config : NodeConfig} (scene : Scene)

/-- Only messages with buttons and list messages are configured by nodes of these types. -/
theorem FlowNode.interactive_of_type (htype : node.type = "sendButtons" ∨ node.type = "sendList")
    (h : node.configured? = some config) :
    (∃ body frame choices, config = .send (.buttons body frame choices)) ∨
      ∃ body button frame sections, config = .send (.list body button frame sections) := by
  rw [configured?] at h
  obtain ⟨type, hname, hconfig⟩ := Option.bind_eq_some_iff.1 h
  obtain ⟨fields, -, rfl⟩ := map_eq_ok_iff.1 (toOption_eq_some_iff.1 hconfig)
  rcases htype with htype | htype
  · rw [htype] at hname
    cases hname
    exact .inl ⟨_, _, _, rfl⟩
  · rw [htype] at hname
    cases hname
    exact .inr ⟨_, _, _, _, rfl⟩

/-- **Interactive messages are posted within limits**, but for the rows of a list message, of which
there are at most ten in each section. Of a message that is posted, the buttons and rows keep their
ids and their order, and every text is the beginning of what it renders to, or, on the button that
opens a list, of the text itself. -/
theorem FlowNode.posts_within_limits
    (htype : node.type = "sendButtons" ∨ node.type = "sendList")
    (h : node.configured? = some config) :
    let posted := (node.message? scene.env.vars).bind (·.request? recipient)
    ((node.act recipient).run.run scene).2.outside.provider.requests =
        scene.outside.provider.requests ++ posted.toList ∧
      ∃ template, config = .send template ∧ ∀ request ∈ posted,
        (∀ text ∈ template.texts,
          renderTemplate scene.env.vars text = .ok (renderedText scene.env.vars text)) ∧
        ∃ payload, request.payload = .object payload ∧
          template.SentAs (renderedText scene.env.vars) recipient.customerId payload := by
  intro posted
  refine ⟨node.requests_act recipient scene, ?_⟩
  obtain ⟨template, rfl, hsent⟩ : ∃ template, config = .send template ∧
      template.SentAs (renderedText scene.env.vars) recipient.customerId
        ((template.mapTexts (renderedText scene.env.vars)).payload recipient.customerId) := by
    rcases interactive_of_type htype h with ⟨body, frame, choices, rfl⟩ |
      ⟨body, button, frame, sections, rfl⟩
    · exact ⟨_, rfl, OutboundMessage.sentAs_buttons _ _ _ _⟩
    · exact ⟨_, rfl, OutboundMessage.sentAs_list _ _ _ _ _⟩
  refine ⟨template, rfl, fun request hrequest => ?_⟩
  obtain ⟨message, hmessage, hrequest⟩ := Option.bind_eq_some_iff.1 hrequest
  obtain ⟨hrender, rfl⟩ := (message?_eq_some_iff h).1 hmessage
  refine ⟨fun text htext => renderTemplate_eq_ok_iff.2 ⟨hrender text htext, rfl⟩, _, ?_, hsent⟩
  exact Credentials.payload_of_request? hrequest

/-- Six rows of a list message, as they are configured. -/
def sixDishes (course : String) : Value :=
  .list ((List.range 6).map fun number =>
    .object [("id", .text (course ++ decimalText number)), ("title", .text course)])

/-- A node that sends a list message with two sections of six rows. -/
def dishesNode : FlowNode :=
  ⟨"dishes", "sendList", .object [("bodyText", .text "Choose"), ("buttonText", .text "Menu"),
    ("sections", .list [.object [("title", .text "Starters"), ("rows", sixDishes "starter")],
      .object [("title", .text "Mains"), ("rows", sixDishes "main")]])]⟩

theorem dishesNode_isSome :
    (dishesNode.configured?.isSome && ((dishesNode.message? bareScene.env.vars).bind
      (·.request? menuRecipient)).isSome) = true := by
  decide +kernel

theorem FlowNode.posts_within_limits_dishes :
    dishesNode.type = "sendList" ∧ ∃ template request,
      dishesNode.configured? = some (.send template) ∧
      ((dishesNode.act menuRecipient).run.run bareScene).2.outside.provider.requests = [request] ∧
      ∃ payload, request.payload = .object payload ∧
        template.SentAs (renderedText bareScene.env.vars) menuRecipient.customerId payload := by
  obtain ⟨hconfigured, hposted⟩ := Bool.and_eq_true_iff.1 dishesNode_isSome
  obtain ⟨config, hconfig⟩ := Option.isSome_iff_exists.1 hconfigured
  obtain ⟨request, hrequest⟩ := Option.isSome_iff_exists.1 hposted
  obtain ⟨hrequests, template, rfl, hsent⟩ :=
    posts_within_limits menuRecipient bareScene (.inr rfl) hconfig
  rw [hrequest] at hrequests
  exact ⟨rfl, template, request, hconfig, hrequests, (hsent request hrequest).2⟩

/-- A field of a value, if it is an object. -/
def Value.part (value : Value) (name : String) : Value :=
  (value.object?.getD []).get name

/-- The rows of a list message in the provider's form, over all its sections. -/
def payloadRows (payload : Value) : List Value :=
  ((((payload.part "interactive").part "action").part "sections").list?.getD []).flatMap
    fun part => (part.part "rows").list?.getD []

/-- **A list message can be posted with too many rows**, if they are in several sections. -/
theorem FlowNode.posts_many_rows :
    ¬∀ (recipient : Recipient) (node : FlowNode) (scene : Scene), node.type = "sendList" →
      ∀ request ∈ (node.message? scene.env.vars).bind (·.request? recipient),
        (payloadRows request.payload).length ≤ mostRows := by
  intro h
  obtain ⟨-, hposted⟩ := Bool.and_eq_true_iff.1 dishesNode_isSome
  obtain ⟨request, hrequest⟩ := Option.isSome_iff_exists.1 hposted
  have hfew := h menuRecipient dishesNode bareScene rfl request hrequest
  have hrows : (((dishesNode.message? bareScene.env.vars).bind (·.request? menuRecipient)).map
      fun request => (payloadRows request.payload).length) = some 12 := by
    decide +kernel
  rw [hrequest, Option.map_some] at hrows
  rw [Option.some.inj hrows] at hfew
  exact absurd hfew (by decide)

end ChatFlow

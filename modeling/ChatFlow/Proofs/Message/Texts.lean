import ChatFlow.Proofs.Node.Handles
import ChatFlow.Proofs.Node.Posted
import ChatFlow.Proofs.Value.Rendering

/-!
# The texts of messages

The texts of a message are what a customer is shown of it, and what is fetched for him: everything
but the ids of buttons and rows, and but the button that opens a list. Rendering a message renders
all of them and touches nothing else (`OutboundMessage.render_eq_ok_iff`). A part that is absent
and one that is empty come to the same payload (`OutboundMessage.payload_tidy`). So what is posted
of a message is decided by what its texts render to.

Main statement: `FlowNode.posts_shown`. The button that opens a list is shown to the customer as
well, but it is posted as it is configured, with its placeholders
(`FlowNode.not_posts_shown_button`).
-/

namespace ChatFlow

/-! ## Texts -/

/-- The texts above and below the body of a message. -/
def Frame.texts (frame : Frame) : List String :=
  frame.header.toList ++ frame.footer.toList

/-- The texts of a row. -/
def ListRow.texts (row : ListRow) : List String :=
  row.title :: row.description.toList

/-- The texts of a section and of its rows. -/
def ListSection.texts (part : ListSection) : List String :=
  part.title :: part.rows.flatMap ListRow.texts

/-- The texts of a contact. -/
def Contact.texts (contact : Contact) : List String :=
  contact.name :: (contact.firstName.toList ++ contact.lastName.toList ++ contact.phone.toList ++
    contact.email.toList)

/-- The texts of a message that are templates. -/
def OutboundMessage.texts : OutboundMessage → List String
  | .text body => [body]
  | .framedText body frame => body :: frame.texts
  | .image link caption | .video link caption => link :: caption.toList
  | .buttons body frame choices => body :: (choices.map Button.title ++ frame.texts)
  | .list body _ frame sections => body :: (sections.flatMap ListSection.texts ++ frame.texts)
  | .audio link | .sticker link => [link]
  | .document link filename caption => link :: (filename.toList ++ caption.toList)
  | .location latitude longitude name address =>
    latitude.toText :: longitude.toText :: (name.toList ++ address.toList)
  | .contacts cards => cards.flatMap Contact.texts

section

variable (f : String → String)

/-- A frame with something done to each of its texts. -/
def Frame.mapTexts (frame : Frame) : Frame :=
  ⟨frame.header.map f, frame.footer.map f⟩

/-- A button with something done to its title. -/
def Button.mapTexts (button : Button) : Button :=
  { button with title := f button.title }

/-- A row with something done to each of its texts. -/
def ListRow.mapTexts (row : ListRow) : ListRow :=
  { row with title := f row.title, description := row.description.map f }

/-- A section with something done to each of its texts. -/
def ListSection.mapTexts (part : ListSection) : ListSection :=
  ⟨f part.title, part.rows.map (ListRow.mapTexts f)⟩

/-- A contact with something done to each of its texts. -/
def Contact.mapTexts (contact : Contact) : Contact :=
  ⟨f contact.name, contact.firstName.map f, contact.lastName.map f, contact.phone.map f,
    contact.email.map f⟩

/-- A message with something done to each of its texts. -/
def OutboundMessage.mapTexts : OutboundMessage → OutboundMessage
  | .text body => .text (f body)
  | .framedText body frame => .framedText (f body) (frame.mapTexts f)
  | .image link caption => .image (f link) (caption.map f)
  | .buttons body frame choices =>
    .buttons (f body) (frame.mapTexts f) (choices.map (Button.mapTexts f))
  | .list body button frame sections =>
    .list (f body) button (frame.mapTexts f) (sections.map (ListSection.mapTexts f))
  | .video link caption => .video (f link) (caption.map f)
  | .audio link => .audio (f link)
  | .document link filename caption => .document (f link) (filename.map f) (caption.map f)
  | .location latitude longitude name address =>
    .location (.text (f latitude.toText)) (.text (f longitude.toText)) (name.map f) (address.map f)
  | .contacts cards => .contacts (cards.map (Contact.mapTexts f))
  | .sticker link => .sticker (f link)

end

/-! ## Rendering -/

section

variable {vars : Object}

/-- Whether a template can be rendered. -/
def Renders (vars : Object) (template : String) : Prop :=
  ∃ text, renderTemplate vars template = .ok text

/-- What a template renders to, if it can be rendered. -/
def renderedText (vars : Object) (template : String) : String :=
  (renderTemplate vars template).toOption.getD ""

theorem renderTemplate_eq_ok_iff {template text : String} :
    renderTemplate vars template = .ok text ↔
      Renders vars template ∧ text = renderedText vars template := by
  unfold Renders renderedText
  cases renderTemplate vars template with
  | error fault => simp
  | ok s => simp [Except.toOption, eq_comm]

theorem renderOptional_eq_ok_iff {template text : Option String} :
    renderOptional vars template = .ok text ↔
      (∀ s ∈ template.toList, Renders vars s) ∧ text = template.map (renderedText vars) := by
  cases template with
  | none => simp [renderOptional, eq_comm]
  | some s =>
    simp only [renderOptional, map_eq_ok_iff, renderTemplate_eq_ok_iff]
    simp [eq_comm]

/-- Parts render one by one. -/
theorem mapM_eq_ok_iff {α β : Type} {f : α → Except Fault β} {g : α → β} {P : α → Prop}
    (h : ∀ a b, f a = .ok b ↔ P a ∧ b = g a) {items : List α} {results : List β} :
    items.mapM f = .ok results ↔ (∀ a ∈ items, P a) ∧ results = items.map g := by
  induction items generalizing results with
  | nil => simp [pure, Except.pure, eq_comm]
  | cons item rest ih =>
    rw [List.mapM_cons]
    simp only [bind_eq_ok_iff, h, ih, List.forall_mem_cons, List.map_cons]
    constructor
    · rintro ⟨_, ⟨hitem, rfl⟩, _, ⟨hrest, rfl⟩, hresults⟩
      cases hresults
      exact ⟨⟨hitem, hrest⟩, rfl⟩
    · rintro ⟨⟨hitem, hrest⟩, rfl⟩
      exact ⟨_, ⟨hitem, rfl⟩, _, ⟨hrest, rfl⟩, rfl⟩

theorem pure_eq_ok_iff {α : Type} {a b : α} : (pure a : Except Fault α) = .ok b ↔ b = a :=
  ⟨fun h => (Except.ok.inj h).symm, fun h => congrArg Except.ok h.symm⟩

theorem Frame.render_eq_ok_iff {frame shown : Frame} :
    frame.render vars = .ok shown ↔
      (∀ s ∈ frame.texts, Renders vars s) ∧ shown = frame.mapTexts (renderedText vars) := by
  simp only [render, texts, mapTexts, bind_eq_ok_iff, renderOptional_eq_ok_iff, pure_eq_ok_iff,
    List.forall_mem_append, and_assoc, exists_and_left, exists_eq_left]

theorem Button.render_eq_ok_iff (button shown : Button) :
    button.render vars = .ok shown ↔
      Renders vars button.title ∧ shown = button.mapTexts (renderedText vars) := by
  simp only [render, mapTexts, bind_eq_ok_iff, renderTemplate_eq_ok_iff, pure_eq_ok_iff, and_assoc,
    exists_and_left, exists_eq_left]

theorem ListRow.render_eq_ok_iff (row shown : ListRow) :
    row.render vars = .ok shown ↔
      (∀ s ∈ row.texts, Renders vars s) ∧ shown = row.mapTexts (renderedText vars) := by
  simp only [render, texts, mapTexts, bind_eq_ok_iff, renderTemplate_eq_ok_iff,
    renderOptional_eq_ok_iff, pure_eq_ok_iff, List.forall_mem_cons, and_assoc, exists_and_left,
    exists_eq_left]

theorem ListSection.render_eq_ok_iff (part shown : ListSection) :
    part.render vars = .ok shown ↔
      (∀ s ∈ part.texts, Renders vars s) ∧ shown = part.mapTexts (renderedText vars) := by
  simp only [render, texts, mapTexts, bind_eq_ok_iff, renderTemplate_eq_ok_iff,
    mapM_eq_ok_iff ListRow.render_eq_ok_iff, pure_eq_ok_iff, List.forall_mem_cons,
    List.forall_mem_flatMap, and_assoc, exists_and_left, exists_eq_left]

theorem Contact.render_eq_ok_iff (contact shown : Contact) :
    contact.render vars = .ok shown ↔
      (∀ s ∈ contact.texts, Renders vars s) ∧ shown = contact.mapTexts (renderedText vars) := by
  simp only [render, texts, mapTexts, bind_eq_ok_iff, renderTemplate_eq_ok_iff,
    renderOptional_eq_ok_iff, pure_eq_ok_iff, List.forall_mem_cons, List.forall_mem_append,
    and_assoc, exists_and_left, exists_eq_left]

/-- **Rendering a message** renders all its texts and touches nothing else. -/
theorem OutboundMessage.render_eq_ok_iff {template message : OutboundMessage} :
    template.render vars = .ok message ↔
      (∀ s ∈ template.texts, Renders vars s) ∧ message = template.mapTexts (renderedText vars) := by
  cases template <;>
    simp only [render, texts, mapTexts, bind_eq_ok_iff, renderTemplate_eq_ok_iff,
      renderOptional_eq_ok_iff, Frame.render_eq_ok_iff, mapM_eq_ok_iff Button.render_eq_ok_iff,
      mapM_eq_ok_iff ListSection.render_eq_ok_iff, mapM_eq_ok_iff Contact.render_eq_ok_iff,
      pure_eq_ok_iff, List.forall_mem_cons, List.forall_mem_append, List.forall_mem_map,
      List.forall_mem_flatMap, List.not_mem_nil, false_implies, implies_true, true_and, and_assoc,
      exists_and_left, exists_eq_left]

end

/-! ## Parts that are empty -/

/-- A frame without the parts that are empty. -/
def Frame.tidy (frame : Frame) : Frame :=
  ⟨presentText? frame.header, presentText? frame.footer⟩

/-- A row without a description that is empty. -/
def ListRow.tidy (row : ListRow) : ListRow :=
  { row with description := presentText? row.description }

/-- A section without descriptions that are empty. -/
def ListSection.tidy (part : ListSection) : ListSection :=
  { part with rows := part.rows.map ListRow.tidy }

/-- A contact without the parts that are empty. -/
def Contact.tidy (contact : Contact) : Contact :=
  ⟨contact.name, presentText? contact.firstName, presentText? contact.lastName,
    presentText? contact.phone, presentText? contact.email⟩

/-- A message without the parts that are empty, where a part can be absent. -/
def OutboundMessage.tidy : OutboundMessage → OutboundMessage
  | .framedText body frame => .framedText body frame.tidy
  | .image link caption => .image link (presentText? caption)
  | .buttons body frame choices => .buttons body frame.tidy choices
  | .list body button frame sections => .list body button frame.tidy (sections.map ListSection.tidy)
  | .video link caption => .video link (presentText? caption)
  | .document link filename caption =>
    .document link (presentText? filename) (presentText? caption)
  | .location latitude longitude name address =>
    .location latitude longitude (presentText? name) (presentText? address)
  | .contacts cards => .contacts (cards.map Contact.tidy)
  | message => message

@[simp] theorem presentText?_presentText? (text : Option String) :
    presentText? (presentText? text) = presentText? text := by
  cases text with
  | none => rfl
  | some s =>
    rw [presentText?]
    split
    · rfl
    · next h => rw [presentText?, if_neg h]

@[simp] theorem presentField_presentText? (name : String) (text : Option String) :
    presentField name (presentText? text) = presentField name text := by
  rw [presentField, presentText?_presentText?, presentField]

/-- Of a text that is empty, nothing is left when it is cut off either. -/
theorem presentText?_map_takeText (text : Option String) (n : Nat) :
    presentText? ((presentText? text).map (takeText n)) = presentText? (text.map (takeText n)) := by
  cases text with
  | none => rfl
  | some s =>
    by_cases h : s.isEmpty = true
    · obtain rfl := String.isEmpty_iff.1 h
      cases n <;> rfl
    · rw [presentText?, if_neg h]

theorem ListRow.payload_tidy (row : ListRow) : row.tidy.payload = row.payload := by
  rw [payload, payload, tidy, presentField, presentText?_map_takeText, presentField]

theorem ListSection.payload_tidy (part : ListSection) : part.tidy.payload = part.payload := by
  have hrows : ((part.rows.map ListRow.tidy).take mostRows).map ListRow.payload =
      (part.rows.take mostRows).map ListRow.payload := by
    rw [← List.map_take, List.map_map]
    exact List.map_congr_left fun row _ => row.payload_tidy
  rw [payload, payload, tidy, hrows]

theorem Contact.payload_tidy (contact : Contact) : contact.tidy.payload = contact.payload := by
  simp only [payload, tidy, presentText?_presentText?]

theorem OutboundMessage.content_tidy (message : OutboundMessage) :
    message.tidy.content = message.content := by
  cases message <;> simp [tidy, content, Frame.tidy, foldFrame, frameFields, interactivePayload,
    List.map_map, Function.comp_def, ListSection.payload_tidy, Contact.payload_tidy]

/-- A part that is absent and a part that is empty come to the same payload. -/
theorem OutboundMessage.payload_tidy (message : OutboundMessage) (recipient : String) :
    message.tidy.payload recipient = message.payload recipient := by
  rw [payload, payload, content_tidy]

/-! ## What is posted -/

/-- A message as a customer is shown it: its texts rendered, and nothing where nothing is left. -/
def OutboundMessage.shown (vars : Object) (template : OutboundMessage) : OutboundMessage :=
  (template.mapTexts (renderedText vars)).tidy

/-- The button that opens a list. -/
def OutboundMessage.listButton? : OutboundMessage → Option String
  | .list _ button _ _ => some button
  | _ => none

/-- A message with something done to the button that opens a list, if it has one. -/
def OutboundMessage.mapListButton (f : String → String) : OutboundMessage → OutboundMessage
  | .list body button frame sections => .list body (f button) frame sections
  | message => message

theorem OutboundMessage.listButton?_shown (vars : Object) (template : OutboundMessage) :
    (template.shown vars).listButton? = template.listButton? := by
  cases template <;> rfl

variable (recipient : Recipient) {node : FlowNode} {template : OutboundMessage} {scene : Scene}

/-- The message that a node sends, if its texts can be rendered. -/
theorem FlowNode.message?_eq_some_iff (h : node.configured? = some (.send template))
    {vars : Object} {message : OutboundMessage} :
    node.message? vars = some message ↔
      (∀ text ∈ template.texts, Renders vars text) ∧
        message = template.mapTexts (renderedText vars) := by
  simp only [message?, h, toOption_eq_some_iff, OutboundMessage.render_eq_ok_iff]

/-- A node posts the message as the customer is shown it. -/
theorem FlowNode.requests_act_shown (h : node.configured? = some (.send template))
    (hrender : ∀ text ∈ template.texts, Renders scene.env.vars text) :
    ((node.act recipient).run.run scene).2.outside.provider.requests =
      scene.outside.provider.requests ++
        ((template.shown scene.env.vars).request? recipient).toList := by
  rw [requests_act, (message?_eq_some_iff h).2 ⟨hrender, rfl⟩, OutboundMessage.request?,
    OutboundMessage.shown, OutboundMessage.payload_tidy]
  rfl

/-- **A node posts what the texts of its message render to.** Every text that the customer is shown,
and every address that is fetched for him, goes into the payload as it renders. So nodes whose
messages render to the same post the same. Only the button that opens a list is posted as it is
configured. -/
theorem FlowNode.posts_shown (h : node.configured? = some (.send template))
    (hrender : ∀ text ∈ template.texts, Renders scene.env.vars text) :
    let shown := template.shown scene.env.vars
    let posted (node : FlowNode) : List ProviderRequest :=
      ((node.act recipient).run.run scene).2.outside.provider.requests
    posted node = scene.outside.provider.requests ++ (shown.request? recipient).toList ∧
      (∀ request ∈ shown.request? recipient,
        request.payload = .object (shown.payload recipient.customerId)) ∧
      (∀ text ∈ template.texts,
        renderTemplate scene.env.vars text = .ok (renderedText scene.env.vars text)) ∧
      (∀ (other : FlowNode) (template' : OutboundMessage),
        other.configured? = some (.send template') →
        (∀ text ∈ template'.texts, Renders scene.env.vars text) →
        template'.shown scene.env.vars = shown → posted other = posted node) ∧
      shown.listButton? = template.listButton? := by
  intro shown posted
  have hposted : posted node = _ := requests_act_shown recipient h hrender
  refine ⟨hposted, fun request hrequest => ?_, fun text htext => ?_, ?_, ?_⟩
  · exact Credentials.payload_of_request? hrequest
  · exact renderTemplate_eq_ok_iff.2 ⟨hrender text htext, rfl⟩
  · intro other template' h' hrender' hshown
    have hother : posted other = _ := requests_act_shown recipient h' hrender'
    rw [hposted, hother, hshown]
  · exact template.listButton?_shown scene.env.vars

/-- A menu that greets the customer by name, and whose button is a template too. -/
def menuTemplate : OutboundMessage :=
  .list "Hello \x7b\x7bname\x7d\x7d" "\x7b\x7bgreeting\x7d\x7d" ⟨none, none⟩
    [⟨"Starters", [⟨"soup", "Soup", none⟩]⟩]

/-- The node that sends the menu. -/
def menuNode : FlowNode :=
  ⟨"menu", "sendList", .object [("bodyText", .text "Hello \x7b\x7bname\x7d\x7d"),
    ("buttonText", .text "\x7b\x7bgreeting\x7d\x7d"),
    ("sections", .list [.object [("title", .text "Starters"),
      ("rows", .list [.object [("id", .text "soup"), ("title", .text "Soup")]])]])]⟩

/-- A scene in which the templates of the menu can be rendered. -/
def menuScene : Scene :=
  { bareScene with env := .ofVariables [("name", .text "Ada"), ("greeting", .text "Menu")] }

/-- Whom the menu is sent to. -/
def menuRecipient : Recipient :=
  ⟨"2348012345678", some "c", ⟨some "token-abc", some "1234567890"⟩⟩

theorem menuNode_configured : menuNode.configured? = some (.send menuTemplate) := rfl

theorem renders_menuScene : ∀ text ∈ menuTemplate.texts ++ menuTemplate.listButton?.toList,
    Renders menuScene.env.vars text := by
  have hok : ∀ text ∈ menuTemplate.texts ++ menuTemplate.listButton?.toList,
      (renderTemplate menuScene.env.vars text).toOption.isSome = true := by decide +kernel
  intro text htext
  obtain ⟨shown, hshown⟩ := Option.isSome_iff_exists.1 (hok text htext)
  exact ⟨shown, toOption_eq_some_iff.1 hshown⟩

theorem FlowNode.posts_shown_menu :
    menuNode.configured? = some (.send menuTemplate) ∧
      (∀ text ∈ menuTemplate.texts, Renders menuScene.env.vars text) ∧
      menuTemplate.shown menuScene.env.vars =
        .list "Hello Ada" "\x7b\x7bgreeting\x7d\x7d" ⟨none, none⟩
          [⟨"Starters", [⟨"soup", "Soup", none⟩]⟩] ∧
      ((menuNode.act menuRecipient).run.run menuScene).2.outside.provider.requests.length = 1 := by
  have hrender := (List.forall_mem_append.1 renders_menuScene).1
  have hone : ((menuTemplate.shown menuScene.env.vars).request? menuRecipient).toList.length = 1 :=
    by decide +kernel
  have hposted := (posts_shown menuRecipient menuNode_configured hrender).1
  dsimp only at hposted
  refine ⟨menuNode_configured, hrender, by cbv, ?_⟩
  rw [hposted, List.length_append, hone]
  rfl

/-- **A node does not post what the button of a list renders to**, although it can be rendered. -/
theorem FlowNode.not_posts_shown_button :
    ¬∀ (recipient : Recipient) (node : FlowNode) (template : OutboundMessage) (scene : Scene),
      node.configured? = some (.send template) →
      (∀ text ∈ template.texts ++ template.listButton?.toList, Renders scene.env.vars text) →
      ((node.act recipient).run.run scene).2.outside.provider.requests =
        scene.outside.provider.requests ++
          (((template.shown scene.env.vars).mapListButton
            (renderedText scene.env.vars)).request? recipient).toList := by
  intro h
  have hposted := h menuRecipient menuNode menuTemplate menuScene menuNode_configured
    renders_menuScene
  rw [requests_act_shown menuRecipient menuNode_configured
    (List.forall_mem_append.1 renders_menuScene).1] at hposted
  have htexts := congrArg (List.map fun request => request.payload.toJson .spaced) hposted
  revert htexts
  decide +kernel

end ChatFlow

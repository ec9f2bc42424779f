import ChatFlow.Proofs.Node.Items
import ChatFlow.Proofs.Node.Logged
import ChatFlow.Proofs.Text.Pieces
import ChatFlow.Proofs.Value.Acyclic

/-!
# Texts that are split and joined again

A node that splits a text leaves its pieces in a variable, and a node that joins them with the same
delimiter leaves the text (`FlowNode.joins_pieces`). Both read and write by paths, which may lead
into each other and through objects that are at several places of the environment.
-/

namespace ChatFlow

/-- The text of a text is this text. -/
theorem map_toText_text (texts : List String) : (texts.map Value.text).map Value.toText = texts := by
  rw [List.map_map]
  exact List.map_id texts

/-- What a node that computes a text does, and what is then read where it assigns. -/
theorem FlowNode.after_text {node : FlowNode} {path template : String} {operation : TextOperation}
    (hc : node.configured? = some (.text path operation template)) (hpath : path ≠ "")
    {scene : Scene} (hacyclic : scene.env.IsAcyclic) {text : String}
    (htext : renderTemplate scene.env.vars template = .ok text) {value : Value}
    (hvalue : operation.apply text scene.env.vars = .ok value) (recipient : Recipient) :
    (node.act recipient).run.run scene =
        (.ok ⟨.leave none, [(path, value)]⟩, node.after recipient scene) ∧
      (node.after recipient scene).env.vars.read? path = .ok (some value) ∧
      (node.after recipient scene).env.IsAcyclic := by
  have hcomputed : computeText operation template scene.env.vars = .ok value := by
    rw [computeText, htext]
    exact hvalue
  have hrun : (node.act recipient).run.run scene = (.ok ⟨.leave none, [(path, value)]⟩,
      { scene with env := scene.env.write path value }) := by
    rw [act_of_configured recipient hc]
    exact Act.run_computeInto hcomputed
  have hafter : node.after recipient scene =
      { scene with env := scene.env.write path value } := congrArg Prod.snd hrun
  rw [hafter]
  exact ⟨hrun, hacyclic.read?_write hpath value, hacyclic.write path value⟩

/-- **Joining what was split gives the text again**, whatever the paths of the two nodes are and
whatever is shared in an environment of JSON values. No piece has the delimiter in it. The text of
the node that joins is rendered too, and not used. -/
theorem FlowNode.joins_pieces {split join : FlowNode} {v w delimiter template unused : String}
    (hsplit : split.configured? = some (.text v (.split delimiter) template))
    (hjoin : join.configured? = some (.text w (.join (some v) delimiter) unused))
    (hdelimiter : delimiter ≠ "") (hv : v ≠ "") (hw : w ≠ "")
    {scene : Scene} (hacyclic : scene.env.IsAcyclic) {text : String}
    (htext : renderTemplate scene.env.vars template = .ok text) (recipient : Recipient)
    {rendered : String}
    (hunused : renderTemplate (split.after recipient scene).env.vars unused = .ok rendered) :
    let middle := split.after recipient scene
    let last := join.after recipient middle
    ∃ pieces : List String,
      (split.act recipient).run.run scene =
        (.ok ⟨.leave none, [(v, .list (pieces.map .text))]⟩, middle) ∧
      middle.env.vars.read? v = .ok (some (.list (pieces.map .text))) ∧
      (∀ piece ∈ pieces, ¬ delimiter.toList <:+: piece.toList) ∧
      (join.act recipient).run.run middle = (.ok ⟨.leave none, [(w, .text text)]⟩, last) ∧
      last.env.vars.read? w = .ok (some (.text text)) := by
  intro middle last
  have hcut : (TextOperation.split delimiter).apply text scene.env.vars =
      .ok (.list ((splitText delimiter text).map .text)) := rfl
  obtain ⟨hrun, hread, hmiddle⟩ := after_text hsplit hv hacyclic htext hcut recipient
  have hjoined : (TextOperation.join (some v) delimiter).apply rendered middle.env.vars =
      .ok (.text text) := by
    have hitems : joinedItems middle.env.vars (some v) =
        .ok ((splitText delimiter text).map .text) := by
      rw [joinedItems, Object.read, hread]
      rfl
    rw [TextOperation.apply, hitems]
    show Except.ok (Value.text (delimiter.intercalate _)) = _
    rw [map_toText_text, intercalate_splitText hdelimiter]
  obtain ⟨hrun', hread', -⟩ := after_text hjoin hw hmiddle hunused hjoined recipient
  exact ⟨splitText delimiter text, hrun, hread,
    fun piece hpiece => not_isInfix_of_mem_splitText hdelimiter hpiece, hrun', hread'⟩

/-- A node that splits the text at a path. -/
def splittingNode : FlowNode where
  id := "s"
  type := "textOperation"
  config := .object [("operation", .text "split"), ("text", .text "-\x7b\x7border.note\x7d\x7d"),
    ("delimiter", .text "aa"), ("variableName", .text "order.note")]

/-- A node that joins the pieces. -/
def joiningNode : FlowNode where
  id := "j"
  type := "textOperation"
  config := .object [("operation", .text "join"), ("arrayVariable", .text "order.note"),
    ("delimiter", .text "aa"), ("variableName", .text "current.note.text")]

/-- A scene in which two variables hold one order. -/
def notedScene : Scene :=
  let order : Value := .object [("note", .text "baaab")]
  { bareScene with
    env := ⟨[("order", order), ("current", order)], [[[.field "order"], [.field "current"]]]⟩ }

/-- A text is split where it came from, and joined below this path by another name of the same
object. The delimiter overlaps with itself in it. -/
theorem FlowNode.joins_pieces_note :
    let middle := splittingNode.after someRecipient notedScene
    let last := joiningNode.after someRecipient middle
    (∃ pieces : List String,
      middle.env.vars.read? "order.note" = .ok (some (.list (pieces.map .text))) ∧
      ∀ piece ∈ pieces, ¬ "aa".toList <:+: piece.toList) ∧
    last.env.vars.read? "current.note.text" = .ok (some (.text "-baaab")) := by
  have happart : Place.Apart [.field "order"] [.field "current"] := .field_cons (by decide) []
  have hacyclic : notedScene.env.IsAcyclic := by
    intro group hgroup
    rw [List.mem_singleton.1 hgroup]
    exact .pair happart
  have hsplit : splittingNode.configured? =
      some (.text "order.note" (.split "aa") "-\x7b\x7border.note\x7d\x7d") := by rfl
  have hjoin : joiningNode.configured? =
      some (.text "current.note.text" (.join (some "order.note") "aa") "") := by rfl
  have htext : renderTemplate notedScene.env.vars "-\x7b\x7border.note\x7d\x7d" =
      .ok "-baaab" := by cbv
  have hunused : renderTemplate (splittingNode.after someRecipient notedScene).env.vars "" =
      .ok "" := by cbv
  obtain ⟨pieces, -, hread, hpieces, -, hlast⟩ :=
    joins_pieces hsplit hjoin (by decide) (by decide) (by decide) hacyclic htext someRecipient
      hunused
  exact ⟨⟨pieces, hread, hpieces⟩, hlast⟩

end ChatFlow

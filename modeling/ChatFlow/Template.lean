import ChatFlow.Value.Path
import ChatFlow.Value.Text

/-!
# Message templates

A template is text with placeholders: a path between double braces, without braces in it. Rendering
puts the text of the variable in the place of each placeholder, once: what is put in is not looked
at again. Braces that do not form a placeholder are text.
-/

namespace ChatFlow

/-- A piece of a template. -/
inductive TemplatePiece where
  | char (c : Char)
  | placeholder (path : String)
  deriving DecidableEq, Repr

/-- The opening brace. -/
def openBrace : Char := '\x7b'

/-- The closing brace. -/
def closeBrace : Char := '\x7d'

/-- Whether a character may stand in a placeholder. -/
def isPathChar (c : Char) : Bool := c != openBrace && c != closeBrace

/-- The path of the placeholder that the text begins with after its two opening braces. -/
def placeholderPath? (cs : List Char) : Option (List Char) :=
  let path := cs.takeWhile isPathChar
  match cs.dropWhile isPathChar with
  | a :: b :: _ => if a == closeBrace && b == closeBrace && !path.isEmpty then some path else none
  | _ => none

/-- Cuts a template into pieces, passing first over `skip` characters of the last placeholder. -/
def templatePieces : (skip : Nat) → List Char → List TemplatePiece
  | _, [] => []
  | skip + 1, _ :: rest => templatePieces skip rest
  | 0, c :: rest =>
    match c == openBrace && rest.head? == some openBrace, placeholderPath? rest.tail with
    | true, some path =>
      .placeholder (String.ofList path) :: templatePieces (path.length + 3) rest
    | _, _ => .char c :: templatePieces 0 rest

/-- The text that a piece renders to. -/
def TemplatePiece.render (vars : Object) : TemplatePiece → Except Fault (List Char)
  | .char c => .ok [c]
  | .placeholder path => (·.toText.toList) <$> vars.read path

/-- Renders a template with the values of variables. -/
def renderTemplate (vars : Object) (template : String) : Except Fault String :=
  (fun parts => String.ofList parts.flatten) <$>
    (templatePieces 0 template.toList).mapM (·.render vars)

/-- Renders a template that may be absent. -/
def renderOptional (vars : Object) : Option String → Except Fault (Option String)
  | some template => some <$> renderTemplate vars template
  | none => .ok none

mutual

/-- Renders every text in a value. Names of fields, numbers and the rest stay as they are. -/
def Value.render (vars : Object) : Value → Except Fault Value
  | .text s => .text <$> renderTemplate vars s
  | .list items => .list <$> renderItems vars items
  | .object fields => .object <$> renderFields vars fields
  | value => .ok value

/-- Renders every text in the items of a list. -/
def renderItems (vars : Object) : List Value → Except Fault (List Value)
  | [] => .ok []
  | item :: rest => do
    let first ← item.render vars
    return first :: (← renderItems vars rest)

/-- Renders every text in the values of the fields of an object. -/
def renderFields (vars : Object) : List (String × Value) → Except Fault (List (String × Value))
  | [] => .ok []
  | (name, value) :: rest => do
    let first ← value.render vars
    return (name, first) :: (← renderFields vars rest)

end

end ChatFlow

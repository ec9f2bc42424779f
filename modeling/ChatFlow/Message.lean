import ChatFlow.Value.Basic

/-!
# Outbound messages

The messages that a customer can be sent. The same types serve for what a node is configured to
send, where the texts are templates, and for what is sent, where they are rendered. A part that is
absent and a part that is empty are the same to the provider.
-/

namespace ChatFlow

/-- A button under a message. -/
structure Button where
  id : String
  title : String
  deriving DecidableEq, Repr

/-- A row of a list message. -/
structure ListRow where
  id : String
  title : String
  description : Option String
  deriving DecidableEq, Repr

/-- A titled group of rows. -/
structure ListSection where
  title : String
  rows : List ListRow
  deriving DecidableEq, Repr

/-- A contact card. -/
structure Contact where
  name : String
  firstName : Option String
  lastName : Option String
  phone : Option String
  email : Option String
  deriving DecidableEq, Repr

/-- What stands above and below the body of an interactive message. -/
structure Frame where
  header : Option String
  footer : Option String
  deriving DecidableEq, Repr

/-- A message to a customer. -/
inductive OutboundMessage where
  | text (body : String)
  /-- A text with a header and a footer folded into it. -/
  | framedText (body : String) (frame : Frame)
  | image (link : String) (caption : Option String)
  | buttons (body : String) (frame : Frame) (buttons : List Button)
  | list (body button : String) (frame : Frame) (sections : List ListSection)
  | video (link : String) (caption : Option String)
  | audio (link : String)
  | document (link : String) (filename caption : Option String)
  | location (latitude longitude : Value) (name address : Option String)
  | contacts (contacts : List Contact)
  | sticker (link : String)
  deriving Repr

/-- A text that is there and not empty. -/
def presentText? : Option String → Option String
  | some s => if s.isEmpty then none else some s
  | none => none

end ChatFlow

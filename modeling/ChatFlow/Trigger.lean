import ChatFlow.Text.Blank
import ChatFlow.Text.Case
import ChatFlow.Text.Search

/-!
# Triggers

A flow is started by any message, or by a message that is one of its keywords or begins with one and
a space. Keywords are compared in lower case, without the white space around them.
-/

namespace ChatFlow

/-- What starts a flow. -/
inductive Trigger where
  | anyMessage
  /-- The keywords, between commas. -/
  | keyword (keywords : String)
  /-- Nothing starts the flow. -/
  | never
  deriving DecidableEq, Repr

/-- The trigger of a kind, with the keywords it was given. -/
def Trigger.ofKind (kind keywords : String) : Trigger :=
  if kind = "any_message" then .anyMessage
  else if kind = "keyword" then .keyword keywords
  else .never

/-- The form in which keywords and messages are compared. -/
def keywordForm (s : String) : String :=
  toLowerText (trim s)

/-- The keywords of a list between commas; empty ones do not count. -/
def parseKeywords (keywords : String) : List String :=
  ((splitText "," keywords).map keywordForm).filter (!·.isEmpty)

/-- Whether a message is a keyword, alone or with an argument after a space. -/
def startsKeyword (message keyword : String) : Bool :=
  message == keyword || startsWithText message (keyword ++ " ")

/-- Whether a message starts the flow. -/
def Trigger.isStartedBy (trigger : Trigger) (message : String) : Bool :=
  match trigger with
  | .anyMessage => true
  | .keyword keywords => (parseKeywords keywords).any (startsKeyword (keywordForm message))
  | .never => false

end ChatFlow

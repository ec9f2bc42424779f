import ChatFlow.Http.Url
import ChatFlow.Json.Reader
import ChatFlow.Json.Writer
import ChatFlow.Text.Ascii

/-!
# Requests and their answers

A line to another service gives its answers in order, and then a standard answer each time; it keeps
the requests that were made. A request can fail before it is made, because its address, a header or
its body cannot be written, or by what the line answers.
-/

namespace ChatFlow

/-- What another service answers to a request. -/
inductive Answer where
  | response (status : Int) (body : String)
  /-- The connection failed, in one of several ways that are told by name. -/
  | disconnected (kind message : String)
  /-- The request was refused on the way for what it holds. -/
  | refused (message : String)
  /-- The way to the service broke. -/
  | broken (message : String)
  deriving DecidableEq, Repr

/-- A line to another service. -/
structure Line (Request : Type) where
  /-- The answers that are still to come. -/
  answers : List Answer
  /-- How many standard answers were given. -/
  standard : Nat
  /-- The requests that were made, in order. -/
  requests : List Request

namespace Line

/-- A line on which nothing was asked yet. -/
def fresh {Request : Type} (answers : List Answer) : Line Request := ⟨answers, 0, []⟩

/-- Makes a request. The standard answer is told the number of such answers, from one on. -/
def ask {Request : Type} (line : Line Request) (standardAnswer : Nat → Answer)
    (request : Request) : Answer × Line Request :=
  let requests := line.requests ++ [request]
  match line.answers with
  | answer :: rest => (answer, ⟨rest, line.standard, requests⟩)
  | [] => (standardAnswer (line.standard + 1), ⟨[], line.standard + 1, requests⟩)

end Line

/-- Why a request failed. -/
inductive CallError where
  | url (fault : UrlFault)
  | header (run : BeyondAscii)
  /-- The body holds a float that JSON has no number for. -/
  | specialFloat
  | disconnected (kind message : String)
  | refused (message : String)
  | broken (message : String)
  /-- The address names no scheme, which shows only when the answer is there. -/
  | noScheme (url : String)
  deriving DecidableEq, Repr

/-- The text of an error. -/
def CallError.message : CallError → String
  | .url fault => fault.message
  | .header run => run.message
  | .specialFloat => "Out of range float values are not JSON compliant"
  | .disconnected _ message | .refused message | .broken message => message
  | .noScheme address => "unknown url type: " ++ quoted address

/-- A status that tells of success. -/
def isSuccessStatus (status : Int) : Bool := 200 ≤ status && status < 300

/-- The response in an answer, or why there is none. -/
def Answer.toResponse : Answer → Except CallError (Int × String)
  | .response status body => .ok (status, body)
  | .disconnected kind message => .error (.disconnected kind message)
  | .refused message => .error (.refused message)
  | .broken message => .error (.broken message)

/-- An address in its normal form. -/
def requestUrl (text : String) : Except CallError Url :=
  (Url.ofText text).mapError .url

/-- Checks that the headers of a request are ASCII, names and values in order. -/
def checkHeaders : List (String × String) → Except CallError Unit
  | [] => .ok ()
  | (name, value) :: rest =>
    match (beyondAscii? name).or (beyondAscii? value) with
    | some run => .error (.header run)
    | none => checkHeaders rest

/-- A body in JSON without spaces. -/
def jsonBody (value : Value) : Except CallError String :=
  if value.hasSpecialFloat then .error .specialFloat else .ok (value.toJson .compact)

end ChatFlow

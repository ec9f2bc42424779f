import ChatFlow.Http.Url
import ChatFlow.Json.Reader
import ChatFlow.Json.Writer
import ChatFlow.Text.Search
import ChatFlow.Text.Utf8

/-!
# Requests to the web interface and replies

A request names a path and parameters, in its address or beside it; of a parameter that is given
several times the last value counts. A reply has a status and a value in JSON or a plain text.
-/

namespace ChatFlow

/-! ## Addresses -/

/-- The bytes of a text in which bytes may be written as a percent sign and two digits. -/
def percentBytes : List Char → List UInt8
  | '%' :: a :: b :: rest =>
    match hexDigit? a, hexDigit? b with
    | some high, some low => UInt8.ofNat (16 * high + low) :: percentBytes rest
    | _, _ => utf8Bytes "%" ++ percentBytes (a :: b :: rest)
  | c :: rest => utf8Bytes (String.singleton c) ++ percentBytes rest
  | [] => []

/-- A text in which bytes may be written as a percent sign and two digits. Bytes that form no text
stay as they are written. -/
def decodePercent (s : String) : String :=
  match decodeUtf8 (percentBytes s.toList) with
  | .ok text => text
  | .error _ => s

/-- A part of the parameters in an address, in which a plus sign stands for a space. -/
def decodeParameter (cs : List Char) : String :=
  decodePercent (String.ofList (cs.map fun c => if c == '+' then ' ' else c))

/-- The parameters in an address. -/
def readParameters (query : String) : List (String × String) :=
  ((splitText "&" query).filter (!·.isEmpty)).map fun part =>
    let (name, rest) := cutAt (· == '=') part.toList
    (decodeParameter name, decodeParameter rest.tail)

/-! ## Requests and replies -/

/-- A request. The parameters are in the order in which they were given. -/
structure WebCall where
  method : String
  path : String
  parameters : List (String × String)
  body : String
  deriving DecidableEq, Repr

/-- The request for an address, with further parameters beside it. The method may be in any case. -/
def WebCall.ofAddress (method address : String) (parameters : List (String × String))
    (body : String) : WebCall :=
  let (path, rest) := cutAt (· == '?') address.toList
  ⟨method.toUpper, decodePercent (String.ofList path),
   readParameters (String.ofList rest.tail) ++ parameters, body⟩

/-- The value of a parameter. -/
def WebCall.parameter? (call : WebCall) (name : String) : Option String :=
  call.parameters.reverse.lookup name

/-- What a reply holds. -/
inductive ReplyBody where
  | empty
  | json (value : Value)
  | plain (text : String)
  deriving Repr

/-- A reply. -/
structure Reply where
  status : Nat
  body : ReplyBody
  deriving Repr

namespace Reply

/-- A reply with an object. -/
def ok (fields : Object) : Reply := ⟨200, .json (.object fields)⟩

/-- A reply that tells what was wrong with the request. -/
def refused (status : Nat) (detail : Value) : Reply :=
  ⟨status, .json (.object [("detail", detail)])⟩

/-- The reply to a request whose parameters cannot be read. -/
def unreadable : Reply := ⟨422, .empty⟩

/-- The reply to a request that failed. -/
def failed : Reply := ⟨500, .plain "Internal Server Error"⟩

/-- The reply as it is sent: a value that JSON has no form for fails the request. -/
def sent (reply : Reply) : Reply :=
  match reply.body with
  | .json value => if value.hasSpecialFloat then failed else reply
  | _ => reply

end Reply

end ChatFlow

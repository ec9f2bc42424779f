import ChatFlow.Text.Digit
import ChatFlow.Text.Quoted

/-!
# UTF-8

`utf8Bytes` writes a text as bytes and `decodeUtf8` reads bytes as a text. Bytes that are no text
are refused with the place and the reason: a byte that begins no character, one that does not go on
with the character before it, or an end within a character.
-/

namespace ChatFlow

/-- Why bytes are no text. -/
inductive Utf8Reason where
  | badStart
  | badContinuation
  | truncated
  deriving DecidableEq, Repr

/-- Where and why bytes are no text. -/
structure Utf8Error where
  first : Nat
  /-- How many bytes are at fault. -/
  count : Nat
  byte : UInt8
  reason : Utf8Reason
  deriving DecidableEq, Repr

/-- The text of a reason. -/
def Utf8Reason.message : Utf8Reason → String
  | .badStart => "invalid start byte"
  | .badContinuation => "invalid continuation byte"
  | .truncated => "unexpected end of data"

/-- The text of an error. -/
def Utf8Error.message (e : Utf8Error) : String :=
  let place :=
    if e.count = 1 then
      "byte 0x" ++ String.ofList (hexDigits 2 e.byte.toNat) ++ " in position "
        ++ decimalText e.first
    else
      "bytes in position " ++ decimalText e.first ++ "-" ++ decimalText (e.first + e.count - 1)
  "'utf-8' codec can't decode " ++ place ++ ": " ++ e.reason.message

/-- The bytes of a text. -/
def utf8Bytes (s : String) : List UInt8 :=
  s.toUTF8.toList

/-- What the first bytes of a text begin with. -/
inductive Utf8Step where
  | char (c : Char) (length : Nat)
  | fault (count : Nat) (reason : Utf8Reason)

/-- Whether a byte goes on with a character. -/
def isContinuation (b : UInt8) : Bool := 0x80 ≤ b.toNat && b.toNat < 0xC0

/-- Whether a byte may follow the first byte of a character; some first bytes allow fewer. -/
def mayFollow (first second : UInt8) : Bool :=
  isContinuation second &&
    (first != 0xE0 || 0xA0 ≤ second.toNat) && (first != 0xED || second.toNat < 0xA0) &&
    (first != 0xF0 || 0x90 ≤ second.toNat) && (first != 0xF4 || second.toNat < 0x90)

/-- How many bytes a character has that begins with a byte. -/
def utf8Length? (first : UInt8) : Option Nat :=
  let n := first.toNat
  if n < 0x80 then some 1
  else if n < 0xC2 then none
  else if n < 0xE0 then some 2
  else if n < 0xF0 then some 3
  else if n < 0xF5 then some 4
  else none

/-- Reads the character or the fault at the front of the bytes after `first`. -/
def utf8Step (first : UInt8) (rest : List UInt8) : Utf8Step :=
  match utf8Length? first with
  | none => .fault 1 .badStart
  | some length =>
    let tail := rest.take (length - 1)
    let sound := tail.mapIdx fun i b => if i = 0 then mayFollow first b else isContinuation b
    let good := (sound.takeWhile id).length
    if good < sound.length then .fault (good + 1) .badContinuation
    else if sound.length < length - 1 then .fault (rest.length + 1) .truncated
    else
      let lead := if length = 1 then first.toNat else first.toNat % Nat.pow 2 (7 - length)
      .char (Char.ofNat (tail.foldl (fun n b => 64 * n + b.toNat % 64) lead)) length

/-- Reads bytes as characters, passing over the rest of the character that was read last. -/
def decodeFrom : (place skip : Nat) → List UInt8 → Except Utf8Error (List Char)
  | _, _, [] => .ok []
  | place, skip + 1, _ :: rest => decodeFrom (place + 1) skip rest
  | place, 0, first :: rest =>
    match utf8Step first rest with
    | .fault count reason => .error ⟨place, count, first, reason⟩
    | .char c length => (decodeFrom (place + 1) (length - 1) rest).map (c :: ·)

/-- Reads bytes as a text. -/
def decodeUtf8 (bytes : List UInt8) : Except Utf8Error String :=
  (decodeFrom 0 0 bytes).map String.ofList

end ChatFlow

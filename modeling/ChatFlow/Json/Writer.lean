import ChatFlow.Value.Basic
import ChatFlow.Number.Shortest
import ChatFlow.Text.Quoted

/-!
# Writing values as JSON

`Value.toJson` writes a value in a `JsonStyle`: the separators between items and after field names,
and whether characters beyond ASCII are escaped. Whole floats keep their `.0`; the numbers that JSON
lacks are written `NaN`, `Infinity` and `-Infinity`.
-/

namespace ChatFlow

/-- How JSON is laid out. -/
structure JsonStyle where
  comma : String
  colon : String
  asciiOnly : Bool

/-- Spaces after commas and colons, ASCII only. -/
def JsonStyle.spaced : JsonStyle := ⟨", ", ": ", true⟩

/-- No spaces, and characters beyond ASCII as they are. -/
def JsonStyle.compact : JsonStyle := ⟨",", ":", false⟩

/-- A UTF-16 unit as an escape. -/
def jsonUnit (n : Nat) : List Char :=
  '\\' :: 'u' :: hexDigits 4 n

/-- One character between quotation marks. -/
def jsonChar (asciiOnly : Bool) (c : Char) : List Char :=
  if c == '"' then ['\\', '"']
  else if c == '\\' then ['\\', '\\']
  else if c == '\n' then ['\\', 'n']
  else if c == '\r' then ['\\', 'r']
  else if c == '\t' then ['\\', 't']
  else if c.toNat = 0x8 then ['\\', 'b']
  else if c.toNat = 0xC then ['\\', 'f']
  else if c.toNat < 0x20 then jsonUnit c.toNat
  else if !asciiOnly || c.toNat < 0x7F then [c]
  else if c.toNat = 0x7F then [c]
  else if c.toNat < 0x10000 then jsonUnit c.toNat
  else
    let rest := c.toNat - 0x10000
    jsonUnit (0xD800 + rest / 0x400) ++ jsonUnit (0xDC00 + rest % 0x400)

/-- A text between quotation marks. -/
def jsonText (asciiOnly : Bool) (s : String) : String :=
  String.ofList ('"' :: s.toList.flatMap (jsonChar asciiOnly) ++ ['"'])

/-- The names that JSON texts give to the floats without digits. -/
def jsonNames : SpecialNames := ⟨"NaN", "Infinity"⟩

mutual

/-- Writes a value as JSON. -/
def Value.toJson (style : JsonStyle) : Value → String
  | .null => "null"
  | .bool true => "true"
  | .bool false => "false"
  | .int n => integerText n
  | .float x => writeFloat jsonNames x
  | .text s => jsonText style.asciiOnly s
  | .list items => "[" ++ style.comma.intercalate (jsonItems style items) ++ "]"
  | .object fields => "\x7b" ++ style.comma.intercalate (jsonFields style fields) ++ "\x7d"

/-- Writes the items of a list. -/
def jsonItems (style : JsonStyle) : List Value → List String
  | [] => []
  | item :: rest => item.toJson style :: jsonItems style rest

/-- Writes the fields of an object. -/
def jsonFields (style : JsonStyle) : List (String × Value) → List String
  | [] => []
  | (name, value) :: rest =>
    (jsonText style.asciiOnly name ++ style.colon ++ value.toJson style) :: jsonFields style rest

end

mutual

/-- Whether a value holds a float that JSON has no number for. -/
def Value.hasSpecialFloat : Value → Bool
  | .float x => (Binary.ofFloat? x).isNone
  | .list items => anySpecialItem items
  | .object fields => anySpecialField fields
  | _ => false

/-- Whether an item of the list holds a float that JSON has no number for. -/
def anySpecialItem : List Value → Bool
  | [] => false
  | item :: rest => item.hasSpecialFloat || anySpecialItem rest

/-- Whether a field holds a float that JSON has no number for. -/
def anySpecialField : List (String × Value) → Bool
  | [] => false
  | (_, value) :: rest => value.hasSpecialFloat || anySpecialField rest

end

end ChatFlow

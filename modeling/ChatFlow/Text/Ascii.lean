import ChatFlow.Text.Digit
import ChatFlow.Text.Quoted

/-!
# Texts in ASCII

Headers of requests are ASCII. `beyondAscii?` finds the first run of characters in a text that are
not, for the message that refuses the text.
-/

namespace ChatFlow

/-- A run of characters beyond ASCII: the first of them, its place, and how many they are. -/
structure BeyondAscii where
  character : Char
  place : Nat
  count : Nat
  deriving DecidableEq, Repr

/-- The first run of characters beyond ASCII. -/
def beyondAscii? (s : String) : Option BeyondAscii :=
  let before := s.toList.takeWhile (·.toNat < 0x80)
  match s.toList.drop before.length with
  | [] => none
  | c :: rest => some ⟨c, before.length, 1 + (rest.takeWhile (0x80 ≤ ·.toNat)).length⟩

/-- A character as an escape. -/
def characterEscape (c : Char) : String :=
  let n := c.toNat
  String.ofList <|
    if n < 0x100 then '\\' :: 'x' :: hexDigits 2 n
    else if n < 0x10000 then '\\' :: 'u' :: hexDigits 4 n
    else '\\' :: 'U' :: hexDigits 8 n

/-- The text that refuses characters beyond ASCII. -/
def BeyondAscii.message (run : BeyondAscii) : String :=
  let place :=
    if run.count = 1 then
      "character '" ++ characterEscape run.character ++ "' in position " ++ decimalText run.place
    else
      "characters in position " ++ decimalText run.place ++ "-"
        ++ decimalText (run.place + run.count - 1)
  "'ascii' codec can't encode " ++ place ++ ": ordinal not in range(128)"

end ChatFlow

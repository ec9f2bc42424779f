import ChatFlow.Text.CharRanges

/-!
# White space

`isBlank` holds of Unicode white space and of the four ASCII separators U+001C to U+001F. `trim`
takes blanks from both ends of a text and leaves the inner ones alone.
-/

namespace ChatFlow

/-- The ranges of white space. -/
def blanks : CharRanges :=
  [(0x9, 0xD), (0x1C, 0x20), (0x85, 0x85), (0xA0, 0xA0), (0x1680, 0x1680), (0x2000, 0x200A),
   (0x2028, 0x2029), (0x202F, 0x202F), (0x205F, 0x205F), (0x3000, 0x3000)]

/-- Whether a character is white space. -/
def isBlank (c : Char) : Bool :=
  blanks.contains c

/-- Drops the characters at the end that satisfy the test. -/
def dropEndWhile (p : Char → Bool) (cs : List Char) : List Char :=
  (cs.reverse.dropWhile p).reverse

/-- Takes the characters that satisfy the test from both ends. -/
def trimList (p : Char → Bool) (cs : List Char) : List Char :=
  dropEndWhile p (cs.dropWhile p)

/-- Takes the white space from both ends of a text. -/
def trim (s : String) : String :=
  String.ofList (trimList isBlank s.toList)

end ChatFlow

/-!
# Searching, splitting and joining texts

Texts are searched from left to right and matches do not overlap. `splitList` cuts a text at every
occurrence of a separator; joining the pieces with the separator gives the text back. Everything is
defined on lists of characters, by recursion on the text that is searched.
-/

namespace ChatFlow

/-- Whether `needle` occurs somewhere in the text. -/
def occursIn (needle : List Char) : List Char → Bool
  | [] => needle.isEmpty
  | c :: rest => needle.isPrefixOf (c :: rest) || occursIn needle rest

/-- Cuts the text at each occurrence of a separator that is not empty, passing first over `skip`
characters that belong to the last separator found. -/
def splitFrom (separator : List Char) : (skip : Nat) → List Char → List (List Char)
  | _, [] => [[]]
  | skip + 1, _ :: rest => splitFrom separator skip rest
  | 0, c :: rest =>
    if separator.isPrefixOf (c :: rest) then
      [] :: splitFrom separator (separator.length - 1) rest
    else
      match splitFrom separator 0 rest with
      | [] => [[c]]
      | piece :: pieces => (c :: piece) :: pieces

/-- The pieces of a text between the occurrences of a separator that is not empty. -/
def splitList (separator text : List Char) : List (List Char) :=
  splitFrom separator 0 text

/-- The pieces of a text between the occurrences of a separator that is not empty. -/
def splitText (separator text : String) : List String :=
  (splitList separator.toList text.toList).map String.ofList

/-- Whether `needle` occurs in the text; the empty text occurs everywhere. -/
def containsText (text needle : String) : Bool :=
  occursIn needle.toList text.toList

/-- Whether the text begins with `start`. -/
def startsWithText (text start : String) : Bool :=
  start.toList.isPrefixOf text.toList

/-- Whether the text ends with `ending`. -/
def endsWithText (text ending : String) : Bool :=
  ending.toList.isSuffixOf text.toList

/-- Puts `replacement` in the place of each occurrence of a text that is not empty. -/
def replaceText (text search replacement : String) : String :=
  replacement.intercalate (splitText search text)

/-- The first `n` characters. -/
def takeText (n : Nat) (text : String) : String :=
  String.ofList (text.toList.take n)

/-- The text without its first `n` characters. -/
def dropText (n : Nat) (text : String) : String :=
  String.ofList (text.toList.drop n)

/-- The characters from one position up to another. A negative position counts from the end, and
positions outside the text are moved to its nearest end. -/
def sliceText (start : Int) (stop : Option Int) (text : String) : String :=
  let length : Int := text.toList.length
  let place (i : Int) : Nat := ((if i < 0 then i + length else i).toNat).min length.toNat
  let first := place start
  let last := (stop.map place).getD length.toNat
  String.ofList ((text.toList.take last).drop first)

end ChatFlow

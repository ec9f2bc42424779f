import ChatFlow.Text.Blank
import ChatFlow.Text.Case
import ChatFlow.Text.Digit
import ChatFlow.Text.Word

/-!
# Search patterns

The syntax tree of a regular expression. The modes that hold at a place (whether case counts,
whether a dot takes line ends, …) are settled when the pattern is read, so each node carries what it
needs.

Two characters are the same without regard to case when their lower-case letters are equal or stand
in `sameWithoutCase`, the few groups of lower-case letters that share a capital.
-/

namespace ChatFlow

/-- How letters are compared. -/
inductive Folding where
  /-- Case counts. -/
  | exact
  /-- Case does not count, for the ASCII letters only. -/
  | ascii
  /-- Case does not count, for all letters. -/
  | full
  deriving DecidableEq, Repr

/-- Lower-case letters that differ although they share a capital. -/
def sameWithoutCase : List (List Nat) :=
  [[0x69, 0x131], [0x73, 0x17F], [0xB5, 0x3BC], [0x345, 0x3B9, 0x1FBE], [0x390, 0x1FD3],
   [0x3B0, 0x1FE3], [0x3B2, 0x3D0], [0x3B5, 0x3F5], [0x3B8, 0x3D1], [0x3BA, 0x3F0],
   [0x3C0, 0x3D6], [0x3C1, 0x3F1], [0x3C2, 0x3C3], [0x3C6, 0x3D5], [0x432, 0x1C80],
   [0x434, 0x1C81], [0x43E, 0x1C82], [0x441, 0x1C83], [0x442, 0x1C84, 0x1C85], [0x44A, 0x1C86],
   [0x463, 0x1C87], [0x1C88, 0xA64B], [0x1E61, 0x1E9B], [0xFB05, 0xFB06]]

/-- The characters that stand for a letter when case does not count. -/
def Folding.fold : Folding → Char → Char
  | .exact, c => c
  | .ascii, c => c.toLower
  | .full, c => simpleLower c

/-- The folded letters that count as the same as a folded letter. -/
def Folding.equals : Folding → Char → List Char
  | .full, c => ((sameWithoutCase.find? (·.contains c.toNat)).map (·.map Char.ofNat)).getD [c]
  | _, c => [c]

/-- The code points that a run of the lower-case table takes to a code point. -/
def CaseRuns.sources (runs : CaseRuns) (code : Nat) : List Nat :=
  runs.filterMap fun (first, last, step, image) =>
    let source := first + (code - image)
    if image ≤ code ∧ source ≤ last ∧ (code - image) % step = 0 then some source else none

/-- The characters that fold to a folded letter. -/
def Folding.sources : Folding → Char → List Nat
  | .exact, c => [c.toNat]
  | .ascii, c => [c.toNat, c.toUpper.toNat]
  | .full, c => c.toNat :: c.toUpper.toNat :: (if c == 'i' then [0x130] else [])
      ++ lowerRuns.sources c.toNat

/-- The kinds of characters that a pattern can name. -/
inductive CharKind where
  | digit
  | space
  | word
  deriving DecidableEq, Repr

/-- Whether a character is of a kind; of the ASCII characters only, if asked for. -/
def CharKind.holds (kind : CharKind) (asciiOnly : Bool) (c : Char) : Bool :=
  (!asciiOnly || c.toNat < 0x80) &&
    match kind with
    | .digit => (decimalDigit? c).isSome
    | .space => isBlank c && !(asciiOnly && 0x1C ≤ c.toNat && c.toNat ≤ 0x1F)
    | .word => isWordChar c

/-- One entry of a set of characters. -/
inductive SetItem where
  | single (code : Nat)
  | range (first last : Nat)
  | ofKind (kind : CharKind) (asciiOnly negated : Bool)
  deriving DecidableEq, Repr

/-- Whether the entry takes a folded character. -/
def SetItem.holds (folding : Folding) (c : Char) : SetItem → Bool
  | .single code => folding.equals c |>.any fun d => (folding.sources d).contains code
  | .range first last =>
    folding.equals c |>.any fun d => (folding.sources d).any fun code => first ≤ code && code ≤ last
  | .ofKind kind asciiOnly negated => kind.holds asciiOnly c != negated

/-- A condition on the place between two characters. -/
inductive Anchor where
  | textStart
  | lineStart
  | textEnd
  /-- The end, or before a line end that is the last character. -/
  | finalLine
  | lineEnd
  | wordEdge (asciiOnly negated : Bool)
  deriving DecidableEq, Repr

/-- In which order the numbers of repetitions are tried. -/
inductive Greed where
  /-- As many as possible first. -/
  | greedy
  /-- As few as possible first. -/
  | lazily
  /-- As many as possible, and no fewer after. -/
  | possessive
  deriving DecidableEq, Repr

/-- A search pattern. -/
inductive Pattern where
  | empty
  | single (folding : Folding) (code : Nat)
  | anyChar (lineEnds : Bool)
  | set (folding : Folding) (negated : Bool) (items : List SetItem)
  | anchor (anchor : Anchor)
  | cat (first second : Pattern)
  | alt (first second : Pattern)
  /-- A group that is not remembered. -/
  | group (body : Pattern)
  | capture (index : Nat) (body : Pattern)
  /-- What a group has taken, once more. -/
  | again (folding : Folding) (index : Nat)
  | repeated (greed : Greed) (least : Nat) (most : Option Nat) (body : Pattern)
  | ahead (negated : Bool) (body : Pattern)
  | behind (negated : Bool) (width : Nat) (body : Pattern)
  /-- The first way in which the body matches, and no other. -/
  | atomic (body : Pattern)
  /-- One of two patterns, by whether a group has taken something. -/
  | whether (index : Nat) (yes no : Pattern)
  deriving Repr

end ChatFlow

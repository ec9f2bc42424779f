import ChatFlow.Pattern.Syntax

/-!
# Searching a text for a pattern

The ways in which a pattern matches are tried in order: alternatives from left to right, repetitions
in the order of their `Greed`. A matcher takes a cursor and what has to match afterwards, and
answers the first way in which both succeed.

A repetition beyond the required number is tried only if the text has moved on since the repetition
before it was begun. So a loop does at most one turn more than there are characters left, and that
bounds it.
-/

namespace ChatFlow

/-- A place in the text, with what the groups have taken so far. -/
structure Cursor where
  /-- The characters before the place, nearest first. -/
  before : List Char
  /-- The characters after the place. -/
  after : List Char
  /-- The number of characters before the place. -/
  position : Nat
  /-- What each group took last. -/
  groups : List (Nat × List Char)

/-- What has to match after a pattern. -/
abbrev Continuation := Cursor → Option Cursor

/-- Matches from a cursor on, and then what follows. -/
abbrev Matcher := Cursor → Continuation → Option Cursor

namespace Cursor

/-- The cursor at the start of a text. -/
def start (text : List Char) : Cursor := ⟨[], text, 0, []⟩

/-- One character on, if it passes the test. -/
def step? (cursor : Cursor) (test : Char → Bool) : Option Cursor :=
  match cursor.after with
  | c :: rest =>
    if test c then
      some ⟨c :: cursor.before, rest, cursor.position + 1, cursor.groups⟩
    else none
  | [] => none

/-- Some characters back. -/
def back : (steps : Nat) → Cursor → Option Cursor
  | 0, cursor => some cursor
  | steps + 1, cursor =>
    match cursor.before with
    | c :: rest =>
      back steps ⟨rest, c :: cursor.after, cursor.position - 1, cursor.groups⟩
    | [] => none

/-- Past the given characters, if the text goes on with them. -/
def through? (folding : Folding) : List Char → Cursor → Option Cursor
  | [], cursor => some cursor
  | c :: rest, cursor =>
    (cursor.step? fun d => folding.fold c == folding.fold d).bind (through? folding rest)

/-- Whether a condition holds at the place. An empty text has no place at or off a word's edge. -/
def isAt (cursor : Cursor) : Anchor → Bool
  | .textStart => cursor.before.isEmpty
  | .lineStart => cursor.before.isEmpty || cursor.before.head? == some '\n'
  | .textEnd => cursor.after.isEmpty
  | .finalLine => cursor.after.isEmpty || cursor.after == ['\n']
  | .lineEnd => cursor.after.isEmpty || cursor.after.head? == some '\n'
  | .wordEdge asciiOnly negated =>
    let inWord := CharKind.word.holds asciiOnly
    !(cursor.before.isEmpty && cursor.after.isEmpty) &&
      (cursor.before.head?.any inWord != cursor.after.head?.any inWord) != negated

end Cursor

/-- Repeats a matcher, `count` times so far. `last` is where the last optional turn was begun. -/
def Matcher.loop (body : Matcher) (lazily : Bool) (least : Nat) (most : Option Nat)
    (next : Continuation) :
    (turns : Nat) → (count : Nat) → (last : Option Nat) → Cursor → Option Cursor
  | 0, _, _, _ => none
  | turns + 1, count, last, cursor =>
    if count < least then
      body cursor (Matcher.loop body lazily least most next turns (count + 1) last)
    else if most.all (count < ·) && last != some cursor.position then
      let again (_ : Unit) := body cursor
        (Matcher.loop body lazily least most next turns (count + 1) (some cursor.position))
      if lazily then next cursor <|> again () else again () <|> next cursor
    else next cursor

/-- The first way in which a matcher succeeds, as the only one. -/
def Matcher.first (body : Matcher) : Matcher := fun cursor next =>
  (body cursor some).bind next

/-- Repeats a matcher in the order that its greed says. -/
def Matcher.repeated (body : Matcher) (greed : Greed) (least : Nat) (most : Option Nat) : Matcher :=
  fun cursor next =>
    let turns := least + cursor.after.length + 2
    match greed with
    | .greedy => Matcher.loop body false least most next turns 0 none cursor
    | .lazily => Matcher.loop body true least most next turns 0 none cursor
    | .possessive =>
      (Matcher.loop body.first false least most some turns 0 none cursor).bind next

/-- How a pattern matches. -/
def Pattern.matcher : Pattern → Matcher
  | .empty, cursor, next => next cursor
  | .single folding code, cursor, next =>
    (cursor.step? fun c => (SetItem.single code).holds folding (folding.fold c)).bind next
  | .anyChar lineEnds, cursor, next => (cursor.step? fun c => lineEnds || c != '\n').bind next
  | .set folding negated items, cursor, next =>
    (cursor.step? fun c => items.any (·.holds folding (folding.fold c)) != negated).bind next
  | .anchor condition, cursor, next => if cursor.isAt condition then next cursor else none
  | .cat first second, cursor, next => first.matcher cursor fun c => second.matcher c next
  | .alt first second, cursor, next => first.matcher cursor next <|> second.matcher cursor next
  | .group body, cursor, next => body.matcher cursor next
  | .capture index body, cursor, next =>
    body.matcher cursor fun c =>
      let taken := cursor.after.take (c.position - cursor.position)
      next { c with groups := (index, taken) :: c.groups.filter (·.1 != index) }
  | .again folding index, cursor, next =>
    (cursor.groups.lookup index).bind fun taken => (cursor.through? folding taken).bind next
  | .repeated greed least most body, cursor, next =>
    Matcher.repeated body.matcher greed least most cursor next
  | .ahead negated body, cursor, next =>
    match body.matcher cursor some, negated with
    | some c, false => next { cursor with groups := c.groups }
    | none, true => next cursor
    | _, _ => none
  | .behind negated width body, cursor, next =>
    match (cursor.back width).bind (body.matcher · some), negated with
    | some c, false => next { cursor with groups := c.groups }
    | none, true => next cursor
    | _, _ => none
  | .atomic body, cursor, next => (body.matcher cursor some).bind next
  | .whether index yes no, cursor, next =>
    if (cursor.groups.lookup index).isSome then yes.matcher cursor next else no.matcher cursor next

/-- Whether the pattern matches from some place of the text on: at the cursor or further right. -/
def Pattern.foundFrom (pattern : Pattern) (before : List Char) : List Char → (position : Nat) → Bool
  | [], position => (pattern.matcher ⟨before, [], position, []⟩ some).isSome
  | c :: rest, position =>
    (pattern.matcher ⟨before, c :: rest, position, []⟩ some).isSome
      || pattern.foundFrom (c :: before) rest (position + 1)

/-- Whether the pattern matches somewhere in the text. -/
def Pattern.foundIn (pattern : Pattern) (text : String) : Bool :=
  pattern.foundFrom [] text.toList 0

end ChatFlow

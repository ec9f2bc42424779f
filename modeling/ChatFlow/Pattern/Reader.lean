import ChatFlow.Number.Reading
import ChatFlow.Pattern.Syntax

/-!
# Reading search patterns

`readPattern` reads the usual notation of regular expressions: sets, groups with and without names,
greedy, lazy and possessive repetition, look-around, references to groups, conditions on groups, and
modes that are switched on for the whole pattern at its start or for a group. It stops at the first
place at which the pattern is refused. Most patterns that are refused are not well formed; two kinds
are refused for another reason (`PatternFault`).

The pattern is first cut into tokens: a character, or a backslash with the character after it. A
look-behind must have a fixed width, which is checked when all is read (`Pattern.isUsable`); widths
of groups are kept in the `PatternScope`.
-/

namespace ChatFlow

/-- Why a pattern is refused. -/
inductive PatternFault where
  | malformed
  /-- A repetition has a bound that is too large to be counted. -/
  | tooManyTurns
  /-- The modes for ASCII characters and for all characters are both on for the whole pattern. -/
  | asciiAndUnicode
  deriving DecidableEq, Repr

/-- What a reader gives that refuses malformed patterns only. -/
def wellFormed {α : Type} : Option α → Except PatternFault α
  | some a => .ok a
  | none => .error .malformed

/-- A character of a pattern, alone or after a backslash. -/
inductive PatternToken where
  | plain (c : Char)
  | escaped (c : Char)
  /-- A backslash at the end of the pattern, with nothing after it. -/
  | lone
  deriving DecidableEq, Repr

/-- Cuts a pattern into tokens. -/
def patternTokens : List Char → List PatternToken
  | [] => []
  | ['\\'] => [.lone]
  | '\\' :: c :: rest => .escaped c :: patternTokens rest
  | c :: rest => .plain c :: patternTokens rest

/-- The modes that a pattern is read in. -/
structure PatternMode where
  ignoreCase : Bool
  multiline : Bool
  dotAll : Bool
  verbose : Bool
  asciiOnly : Bool
  deriving DecidableEq, Repr

/-- No mode is on. -/
def PatternMode.standard : PatternMode := ⟨false, false, false, false, false⟩

/-- How letters are compared in a mode. -/
def PatternMode.folding (mode : PatternMode) : Folding :=
  if mode.ignoreCase then (if mode.asciiOnly then .ascii else .full) else .exact

/-- The letters that name modes. -/
def modeLetters : List Char := ['i', 'm', 's', 'x', 'a', 'u', 't']

/-- Switches the mode of a letter on or off. -/
def PatternMode.switch (mode : PatternMode) (on : Bool) : Char → PatternMode
  | 'i' => { mode with ignoreCase := on }
  | 'm' => { mode with multiline := on }
  | 's' => { mode with dotAll := on }
  | 'x' => { mode with verbose := on }
  | 'a' => { mode with asciiOnly := on }
  | 'u' => { mode with asciiOnly := !on }
  | _ => mode

/-- Least and greatest number of characters that a pattern takes; no greatest if unbounded. -/
structure PatternWidth where
  least : Nat
  most : Option Nat
  deriving DecidableEq, Repr

namespace PatternWidth

/-- The width of two patterns in a row. -/
def add (a b : PatternWidth) : PatternWidth :=
  ⟨a.least + b.least, a.most.bind fun m => b.most.map (m + ·)⟩

/-- The width of one pattern or another. -/
def either (a b : PatternWidth) : PatternWidth :=
  ⟨min a.least b.least, a.most.bind fun m => b.most.map (max m ·)⟩

/-- The width of a repeated pattern. -/
def times (a : PatternWidth) (least : Nat) (most : Option Nat) : PatternWidth :=
  ⟨a.least * least, if a.most = some 0 then some 0 else a.most.bind fun m => most.map (m * ·)⟩

end PatternWidth

/-- What is known of the groups while a pattern is read. -/
structure PatternScope where
  /-- The widths of the groups from the first on; a group that is still open has none. -/
  widths : List (Option PatternWidth)
  /-- The numbers of the named groups. -/
  names : List (String × Nat)
  /-- Within a look-behind, the number of groups before it. -/
  behindFrom : Option Nat
  /-- Groups that conditions ask for; they must exist in the end. -/
  asked : List Nat
  /-- The letters of the modes that were switched on for the whole pattern. -/
  modes : List Char

namespace PatternScope

/-- The scope at the start of a pattern. -/
def initial : PatternScope := ⟨[], [], none, [], []⟩

/-- The width of a group that is closed. -/
def closed? (scope : PatternScope) (index : Nat) : Option PatternWidth :=
  if index = 0 then none else (scope.widths[index - 1]?).join

/-- Whether a condition may ask for the group here: within a look-behind, only for a group that was
closed before it. -/
def mayAsk (scope : PatternScope) (index : Nat) : Bool :=
  match scope.behindFrom with
  | none => true
  | some groups => (scope.closed? index).isSome && index ≤ groups

/-- Whether a group may be referred to here: it is closed, and not in the same look-behind. -/
def mayRefer (scope : PatternScope) (index : Nat) : Bool :=
  (scope.closed? index).isSome && scope.mayAsk index

/-- Opens a group and gives its number. A name must be new. -/
def openGroup? (scope : PatternScope) (name : Option String) : Option (Nat × PatternScope) :=
  let index := scope.widths.length + 1
  let opened := { scope with widths := scope.widths ++ [none] }
  match name with
  | none => some (index, opened)
  | some name =>
    if (scope.names.lookup name).isSome then none
    else some (index, { opened with names := (name, index) :: scope.names })

/-- Closes a group. -/
def closeGroup (scope : PatternScope) (index : Nat) (width : PatternWidth) : PatternScope :=
  { scope with widths := scope.widths.set (index - 1) (some width) }

end PatternScope

/-- How many characters a pattern takes. -/
def Pattern.width (scope : PatternScope) : Pattern → PatternWidth
  | .empty | .anchor _ | .ahead .. | .behind .. => ⟨0, some 0⟩
  | .single .. | .anyChar _ | .set .. => ⟨1, some 1⟩
  | .cat first second => (first.width scope).add (second.width scope)
  | .alt first second => (first.width scope).either (second.width scope)
  | .group body | .capture _ body | .atomic body => body.width scope
  | .again _ index => (scope.closed? index).getD ⟨0, some 0⟩
  | .repeated _ least most body => (body.width scope).times least most
  | .whether _ yes no => (yes.width scope).either (no.width scope)

/-- The bounds of a repetition have to be less than this, and a look-behind goes back at most so
many characters. -/
def turnLimit : Nat := 4294967295

/-- Whether a pattern can be used after all of it was read: its look-behinds have a fixed width, and
nothing is repeated in the mode for templates. -/
def Pattern.isUsable (scope : PatternScope) : Pattern → Bool
  | .empty | .anchor _ | .single .. | .anyChar _ | .set .. | .again .. => true
  | .cat first second | .alt first second | .whether _ first second =>
    first.isUsable scope && second.isUsable scope
  | .group body | .capture _ body | .atomic body | .ahead _ body => body.isUsable scope
  | .repeated _ _ _ body => !scope.modes.contains 't' && body.isUsable scope
  | .behind _ width body =>
    (body.width scope).most == some width && width ≤ turnLimit && body.isUsable scope

/-- The set that an escape such as `\d` stands for. -/
def kindEscape? (asciiOnly : Bool) : Char → Option SetItem
  | 'd' => some (.ofKind .digit asciiOnly false)
  | 'D' => some (.ofKind .digit asciiOnly true)
  | 's' => some (.ofKind .space asciiOnly false)
  | 'S' => some (.ofKind .space asciiOnly true)
  | 'w' => some (.ofKind .word asciiOnly false)
  | 'W' => some (.ofKind .word asciiOnly true)
  | _ => none

/-- The anchor that an escape such as `\b` stands for. -/
def anchorEscape? (asciiOnly : Bool) : Char → Option Anchor
  | 'A' => some .textStart
  | 'Z' => some .textEnd
  | 'b' => some (.wordEdge asciiOnly false)
  | 'B' => some (.wordEdge asciiOnly true)
  | _ => none

/-- The control character that an escape such as `\n` stands for. -/
def controlEscape? : Char → Option Nat
  | 'a' => some 0x7
  | 'b' => some 0x8
  | 'f' => some 0xC
  | 'n' => some 0xA
  | 'r' => some 0xD
  | 't' => some 0x9
  | 'v' => some 0xB
  | '\\' => some 0x5C
  | _ => none

/-- Whether the character is an ASCII letter. -/
def isAsciiLetter (c : Char) : Bool :=
  ('a' ≤ c && c ≤ 'z') || ('A' ≤ c && c ≤ 'Z')

/-- The value of an octal digit. -/
def octalDigit? (c : Char) : Option Nat :=
  if '0' ≤ c ∧ c ≤ '7' then some (asciiDigit c) else none

/-- The value of a hexadecimal digit of a pattern. -/
def patternHexDigit? (c : Char) : Option Nat :=
  if isAsciiDigit c then some (asciiDigit c)
  else if 'a' ≤ c ∧ c ≤ 'f' then some (c.toNat - 'a'.toNat + 10)
  else if 'A' ≤ c ∧ c ≤ 'F' then some (c.toNat - 'A'.toNat + 10)
  else none

/-- Takes at most `count` digits in a base off the tokens. -/
def takeDigits (digit? : Char → Option Nat) :
    (count : Nat) → List PatternToken → List Nat × List PatternToken
  | 0, tokens => ([], tokens)
  | count + 1, tokens =>
    match tokens with
    | .plain c :: rest =>
      match digit? c with
      | some d =>
        let (digits, after) := takeDigits digit? count rest
        (d :: digits, after)
      | none => ([], tokens)
    | _ => ([], tokens)

/-- The number that digits name in a base. -/
def natInBase (base : Nat) (digits : List Nat) : Nat :=
  digits.foldl (fun n d => base * n + d) 0

/-- Reads the hexadecimal digits of an escape, all `count` of them. -/
def readHexEscape? (count : Nat) (tokens : List PatternToken) :
    Option (Nat × List PatternToken) :=
  let (digits, rest) := takeDigits patternHexDigit? count tokens
  let code := natInBase 16 digits
  if digits.length = count ∧ code < 0x110000 then some (code, rest) else none

/-- Reads the code point of an escape that has the same meaning inside and outside of sets. -/
def readCodeEscape? (c : Char) (tokens : List PatternToken) : Option (Nat × List PatternToken) :=
  match c with
  | 'x' => readHexEscape? 2 tokens
  | 'u' => readHexEscape? 4 tokens
  | 'U' => readHexEscape? 8 tokens
  | _ => if isAsciiDigit c || isAsciiLetter c then none else some (c.toNat, tokens)

/-- Reads an escape inside a set. -/
def readSetEscape? (asciiOnly : Bool) (c : Char) (tokens : List PatternToken) :
    Option (SetItem × List PatternToken) :=
  match controlEscape? c, kindEscape? asciiOnly c, octalDigit? c with
  | some code, _, _ => some (.single code, tokens)
  | none, some item, _ => some (item, tokens)
  | none, none, some d =>
    let (digits, rest) := takeDigits octalDigit? 2 tokens
    let code := natInBase 8 (d :: digits)
    if code ≤ 255 then some (.single code, rest) else none
  | none, none, none => (readCodeEscape? c tokens).map fun (code, rest) => (.single code, rest)

/-- Reads one character or escape inside a set. -/
def readSetUnit? (asciiOnly : Bool) : List PatternToken → Option (SetItem × List PatternToken)
  | [] | .lone :: _ => none
  | .plain c :: rest => some (.single c.toNat, rest)
  | .escaped c :: rest => readSetEscape? asciiOnly c rest

/-- Reads the rest of a set. A closing bracket that comes first is a character of the set. -/
def readSetItems? (asciiOnly : Bool) :
    (fuel : Nat) → List SetItem → List PatternToken → Option (List SetItem × List PatternToken)
  | 0, _, _ => none
  | fuel + 1, items, tokens =>
    if !items.isEmpty && tokens.head? == some (.plain ']') then some (items, tokens.tail)
    else
      match readSetUnit? asciiOnly tokens with
      | none => none
      | some (first, .plain '-' :: rest) =>
        if rest.head? == some (.plain ']') then
          some (items ++ [first, .single '-'.toNat], rest.tail)
        else
          match first, readSetUnit? asciiOnly rest with
          | .single low, some (.single high, after) =>
            if low ≤ high then readSetItems? asciiOnly fuel (items ++ [.range low high]) after
            else none
          | _, _ => none
      | some (item, rest) => readSetItems? asciiOnly fuel (items ++ [item]) rest

/-- Reads a set after its opening bracket. -/
def readSet? (mode : PatternMode) (tokens : List PatternToken) :
    Option (Pattern × List PatternToken) :=
  let negated := tokens.head? == some (.plain '^')
  let body := if negated then tokens.tail else tokens
  (readSetItems? mode.asciiOnly (body.length + 1) [] body).map fun (items, rest) =>
    (.set mode.folding negated items, rest)

/-- Reads a reference to a group by number, or an octal escape, after its first digit. -/
def readNumberEscape? (mode : PatternMode) (scope : PatternScope) (c : Char)
    (tokens : List PatternToken) : Option (Pattern × List PatternToken) :=
  let refer (index : Nat) (rest : List PatternToken) : Option (Pattern × List PatternToken) :=
    if scope.mayRefer index then some (.again mode.folding index, rest) else none
  if c == '0' then
    let (digits, rest) := takeDigits octalDigit? 2 tokens
    some (.single mode.folding (natInBase 8 digits), rest)
  else
    match tokens with
    | .plain d :: rest =>
      if !isAsciiDigit d then refer (asciiDigit c) tokens
      else
        match octalDigit? c, octalDigit? d, takeDigits octalDigit? 1 rest with
        | some x, some y, ([z], after) =>
          let code := natInBase 8 [x, y, z]
          if code ≤ 255 then some (.single mode.folding code, after) else none
        | _, _, _ => refer (natInBase 10 [asciiDigit c, asciiDigit d]) rest
    | _ => refer (asciiDigit c) tokens

/-- Reads an escape outside of sets. -/
def readEscape? (mode : PatternMode) (scope : PatternScope) (c : Char)
    (tokens : List PatternToken) : Option (Pattern × List PatternToken) :=
  match anchorEscape? mode.asciiOnly c, kindEscape? mode.asciiOnly c, controlEscape? c with
  | some anchor, _, _ => some (.anchor anchor, tokens)
  | none, some item, _ => some (.set mode.folding false [item], tokens)
  | none, none, some code => some (.single mode.folding code, tokens)
  | none, none, none =>
    if isAsciiDigit c then readNumberEscape? mode scope c tokens
    else (readCodeEscape? c tokens).map fun (code, rest) => (.single mode.folding code, rest)

/-- The characters of a token. -/
def PatternToken.chars : PatternToken → List Char
  | .plain c => [c]
  | .escaped c => ['\\', c]
  | .lone => ['\\']

/-- Reads a name that is not empty, up to the character that ends it. -/
def readGroupName? (stop : Char) (tokens : List PatternToken) :
    Option (String × List PatternToken) :=
  let name := tokens.takeWhile (· != .plain stop)
  match tokens.dropWhile (· != .plain stop) with
  | [] => none
  | _ :: rest =>
    if name.isEmpty then none else some (String.ofList (name.flatMap (·.chars)), rest)

/-- Whether a text is a name: word characters, the first of which is no digit. -/
def isGroupName (name : String) : Bool :=
  match name.toList with
  | [] => false
  | c :: rest => isWordChar c && !isDigit c && rest.all isWordChar

/-- Reads the bounds of a repetition after an opening brace; none if the brace stands for itself. -/
def readBounds? (tokens : List PatternToken) :
    Option (Option Nat × Option Nat × List PatternToken) :=
  let digit? (c : Char) : Option Nat := if isAsciiDigit c then some (asciiDigit c) else none
  let number? (digits : List Nat) : Option Nat :=
    if digits.isEmpty then none else some (natInBase 10 digits)
  if tokens.head? == some (.plain '\x7d') then none
  else
    let (low, rest) := takeDigits digit? tokens.length tokens
    let (high, rest) :=
      if rest.head? == some (.plain ',') then takeDigits digit? rest.length rest.tail
      else (low, rest)
    if rest.head? == some (.plain '\x7d') then some (number? low, number? high, rest.tail)
    else none

/-- The least and greatest number of turns of a repetition sign, if it is one. Bounds that are too
large are refused unless the pattern breaks off after them. -/
def readRepetition (c : Char) (tokens : List PatternToken) :
    Except PatternFault (Option (Nat × Option Nat × List PatternToken)) :=
  match c with
  | '?' => .ok (some (0, some 1, tokens))
  | '*' => .ok (some (0, none, tokens))
  | '+' => .ok (some (1, none, tokens))
  | '\x7b' =>
    match readBounds? tokens with
    | none => .ok none
    | some (low, high, rest) =>
      if rest.head? == some .lone then .error .malformed
      else if low.any (turnLimit ≤ ·) || high.any (turnLimit ≤ ·) then .error .tooManyTurns
      else .ok (some (low.getD 0, high, rest))
  | _ => .ok none

/-- Reads the sign that tells how greedy a repetition is. -/
def readGreed : List PatternToken → Greed × List PatternToken
  | .plain '?' :: rest => (.lazily, rest)
  | .plain '+' :: rest => (.possessive, rest)
  | rest => (.greedy, rest)

/-- Whether a pattern may be repeated: it is neither an anchor nor itself a repetition. -/
def Pattern.isRepeatable : Pattern → Bool
  | .anchor _ | .repeated .. => false
  | _ => true

/-- Patterns in a row, given last first. -/
def Pattern.inRow (items : List Pattern) : Pattern :=
  items.foldl (fun rest item => if rest matches .empty then item else .cat item rest) .empty

/-- Drops a comment up to the end of its line. -/
def dropLineComment (tokens : List PatternToken) : List PatternToken :=
  match tokens.dropWhile fun token => token != .plain '\n' && token != .lone with
  | .plain _ :: rest => rest
  | rest => rest

/-- The letters that switch modes on and off in a group. -/
structure ModeSwitch where
  on : List Char
  off : List Char

/-- Reads the letters of modes at the opening of a group, and tells whether they hold for the whole
pattern: they do if the group is closed right after them, and else for the group's body. -/
def readModes? (tokens : List PatternToken) :
    Option (ModeSwitch × Bool × List PatternToken) :=
  let isMode : PatternToken → Bool
    | .plain c => modeLetters.contains c
    | .escaped _ | .lone => false
  let letters (ts : List PatternToken) : List Char := ts.flatMap (·.chars)
  let on := letters (tokens.takeWhile isMode)
  if on.contains 'a' && on.contains 'u' then none
  else
    match tokens.dropWhile isMode with
    | .plain ')' :: rest => if on.isEmpty then none else some (⟨on, []⟩, true, rest)
    | .plain ':' :: rest =>
      if on.isEmpty || on.contains 't' then none else some (⟨on, []⟩, false, rest)
    | .plain '-' :: more =>
      let off := letters (more.takeWhile isMode)
      match more.dropWhile isMode with
      | .plain ':' :: rest =>
        if off.isEmpty || off.any (fun c => on.contains c || c == 'a' || c == 'u' || c == 't')
            || on.contains 't' then none
        else some (⟨on, off⟩, false, rest)
      | _ => none
    | _ => none

/-- Switches the modes of letters. -/
def PatternMode.apply (mode : PatternMode) (change : ModeSwitch) : PatternMode :=
  let switched := change.on.foldl (·.switch true ·) mode
  change.off.foldl (·.switch false ·) switched

/-- One more than the greatest number that a group may have. -/
def groupLimit : Nat := 1073741823

/-- The number that a condition on a group gives, if it gives no name. -/
def groupNumber? (name : String) : Option Nat :=
  match dropLowLines? none ((trimList isBlank name.toList).map asciiForDigit) with
  | some ('+' :: digits) | some digits => decimalNat? (String.ofList digits)
  | none => none

/-- What stands after the opening of a group. -/
inductive GroupKind where
  | capture (name : Option String)
  | plain
  | atomic
  | ahead (negated : Bool)
  | behind (negated : Bool)

/-- Reads what kind of group an opening bracket begins, if its body follows. -/
def readGroupKind? : List PatternToken → Option (GroupKind × List PatternToken)
  | .plain '?' :: .plain 'P' :: .plain '<' :: rest =>
    (readGroupName? '>' rest).bind fun (name, after) =>
      if isGroupName name then some (.capture (some name), after) else none
  | .plain '?' :: .plain ':' :: rest => some (.plain, rest)
  | .plain '?' :: .plain '>' :: rest => some (.atomic, rest)
  | .plain '?' :: .plain '=' :: rest => some (.ahead false, rest)
  | .plain '?' :: .plain '!' :: rest => some (.ahead true, rest)
  | .plain '?' :: .plain '<' :: .plain '=' :: rest => some (.behind false, rest)
  | .plain '?' :: .plain '<' :: .plain '!' :: rest => some (.behind true, rest)
  | .plain '?' :: _ => none
  | rest => some (.capture none, rest)

/-- Wraps the body of a group that is closed. -/
def GroupKind.close (kind : GroupKind) (index : Nat) (outer scope : PatternScope)
    (body : Pattern) : Pattern × PatternScope :=
  let width := body.width scope
  match kind with
  | .capture _ => (.capture index body, scope.closeGroup index width)
  | .plain => (.group body, scope)
  | .atomic => (.atomic body, scope)
  | .ahead negated => (.ahead negated body, scope)
  | .behind negated =>
    (.behind negated width.least body, { scope with behindFrom := outer.behindFrom })

/-- Enters a group: gives its number, if it is remembered, and the scope of its body. -/
def GroupKind.enter? (kind : GroupKind) (scope : PatternScope) : Option (Nat × PatternScope) :=
  match kind with
  | .capture name => scope.openGroup? name
  | .behind _ =>
    some (0, { scope with behindFrom := scope.behindFrom.or (some scope.widths.length) })
  | _ => some (0, scope)

/-- What reading a part of a pattern gives: the part, what follows it, and what is known after. -/
structure PatternPart where
  pattern : Pattern
  rest : List PatternToken
  scope : PatternScope
  mode : PatternMode

/-- Drops the closing bracket that has to follow. -/
def PatternPart.closed (part : PatternPart) : Except PatternFault (List PatternToken) :=
  match part.rest with
  | .plain ')' :: after => .ok after
  | _ => .error .malformed

mutual

/-- Reads alternatives. `atTop` holds outside of all groups. -/
def readAlternatives : (fuel : Nat) → (atTop isFirst : Bool) → PatternMode → PatternScope →
    List PatternToken → Except PatternFault PatternPart
  | 0, _, _, _, _, _ => .error .malformed
  | fuel + 1, atTop, isFirst, mode, scope, tokens => do
    let part ← readRow fuel (atTop && isFirst) mode scope [] tokens
    match part.rest with
    | .plain '|' :: rest =>
      let others ← readAlternatives fuel atTop false part.mode part.scope rest
      return { others with pattern := .alt part.pattern others.pattern }
    | _ => return part

/-- Reads patterns in a row, after the items read before, which come last first. Modes for the whole
pattern may be switched only `atStart` and before any item. -/
def readRow : (fuel : Nat) → (atStart : Bool) → PatternMode → PatternScope →
    List Pattern → List PatternToken → Except PatternFault PatternPart
  | 0, _, _, _, _, _ => .error .malformed
  | fuel + 1, atStart, mode, scope, items, tokens =>
    let finished : PatternPart := ⟨.inRow items, tokens, scope, mode⟩
    let more (item : Pattern) (rest : List PatternToken) :=
      readRow fuel atStart mode scope (item :: items) rest
    let moreAfter (part : PatternPart) :=
      readRow fuel atStart mode part.scope (part.pattern :: items) part.rest
    match tokens with
    | [] => .ok finished
    | .lone :: _ => .error .malformed
    | .escaped c :: rest => do
      let (item, after) ← wellFormed (readEscape? mode scope c rest)
      more item after
    | .plain c :: rest =>
      if c == '|' || c == ')' then .ok finished
      else if mode.verbose && (c == ' ' || ('\t' ≤ c && c ≤ '\r')) then
        readRow fuel atStart mode scope items rest
      else if mode.verbose && c == '#' then
        readRow fuel atStart mode scope items (dropLineComment rest)
      else if c == '[' then do
        let (item, after) ← wellFormed (readSet? mode rest)
        more item after
      else if c == '.' then more (.anyChar mode.dotAll) rest
      else if c == '^' then more (.anchor (if mode.multiline then .lineStart else .textStart)) rest
      else if c == '$' then more (.anchor (if mode.multiline then .lineEnd else .finalLine)) rest
      else if c == '(' then
        match rest with
        | .plain '?' :: .plain '#' :: comment =>
          match comment.dropWhile (· != .plain ')') with
          | _ :: after => readRow fuel atStart mode scope items after
          | [] => .error .malformed
        | .plain '?' :: .plain 'P' :: .plain '=' :: named => do
          let (name, after) ← wellFormed (readGroupName? ')' named)
          let index ← wellFormed (scope.names.lookup name)
          if scope.mayRefer index then more (.again mode.folding index) after
          else .error .malformed
        | .plain '?' :: .plain '(' :: condition => do
          moreAfter (← readCondition fuel mode scope condition)
        | _ =>
          match readGroupKind? rest with
          | some (kind, body) => do moreAfter (← readGroup fuel mode scope kind body)
          | none => do
            let (change, forAll, after) ← wellFormed (readModes? rest.tail)
            if forAll then
              if atStart && items.isEmpty then
                let switched := { scope with modes := scope.modes ++ change.on }
                readRow fuel atStart (mode.apply change) switched items after
              else .error .malformed
            else moreAfter (← readGroup fuel (mode.apply change) scope .plain after)
      else do
        match ← readRepetition c rest with
        | none => more (.single mode.folding c.toNat) rest
        | some (least, most, after) =>
          match items with
          | [] => .error .malformed
          | item :: before =>
            if !item.isRepeatable || most.any (· < least) then .error .malformed
            else
              let (greed, after) := readGreed after
              readRow fuel atStart mode scope (.repeated greed least most item :: before) after

/-- Reads the body of a group and its closing bracket. -/
def readGroup : (fuel : Nat) → PatternMode → PatternScope → GroupKind → List PatternToken →
    Except PatternFault PatternPart
  | 0, _, _, _, _ => .error .malformed
  | fuel + 1, mode, scope, kind, tokens => do
    let (index, inner) ← wellFormed (kind.enter? scope)
    let body ← readAlternatives fuel false false mode inner tokens
    let after ← body.closed
    let (item, outer) := kind.close index scope body.scope body.pattern
    return ⟨item, after, outer, mode⟩

/-- Reads a condition on a group and its one or two branches. -/
def readCondition : (fuel : Nat) → PatternMode → PatternScope → List PatternToken →
    Except PatternFault PatternPart
  | 0, _, _, _ => .error .malformed
  | fuel + 1, mode, scope, tokens => do
    let (name, rest) ← wellFormed (readGroupName? ')' tokens)
    let index ← wellFormed (if isGroupName name then scope.names.lookup name else groupNumber? name)
    if index = 0 || groupLimit ≤ index || !scope.mayAsk index then .error .malformed
    else
      let asking := { scope with asked := index :: scope.asked }
      let yes ← readRow fuel false mode asking [] rest
      match yes.rest with
      | .plain '|' :: others =>
        let no ← readRow fuel false mode yes.scope [] others
        let after ← no.closed
        return ⟨.whether index yes.pattern no.pattern, after, no.scope, mode⟩
      | _ =>
        let after ← yes.closed
        return ⟨.whether index yes.pattern .empty, after, yes.scope, mode⟩

end

/-- Reads a whole pattern. -/
def readPattern (s : String) : Except PatternFault Pattern := do
  let tokens := patternTokens s.toList
  let ⟨pattern, rest, scope, _⟩ ←
    readAlternatives (4 * tokens.length + 4) true true .standard .initial tokens
  if scope.modes.contains 'a' && scope.modes.contains 'u' then .error .asciiAndUnicode
  else if rest.isEmpty && scope.asked.all (· ≤ scope.widths.length) && pattern.isUsable scope then
    return pattern
  else .error .malformed

end ChatFlow

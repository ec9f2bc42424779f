import ChatFlow.Value.Basic
import ChatFlow.Number.Reading

/-!
# Reading JSON

`readJson?` reads a whole text as one value. A number written with a point or an exponent is a
float, any other a whole number of any size; `NaN`, `Infinity` and `-Infinity` are read too. Raw
control characters in texts are refused. Of fields with one name the last value wins, in the place
of the first.

Every step leaves a shorter text, so the length of the text bounds the depth of the reading.
-/

namespace ChatFlow

/-- The white space that JSON allows between tokens. -/
def isJsonSpace (c : Char) : Bool :=
  c == ' ' || c == '\n' || c == '\r' || c == '\t'

/-- Drops white space at the front. -/
def skipSpace (cs : List Char) : List Char :=
  cs.dropWhile isJsonSpace

/-- The value of a hexadecimal digit. -/
def hexDigit? (c : Char) : Option Nat :=
  if isAsciiDigit c then some (asciiDigit c)
  else if 'a' ≤ c ∧ c ≤ 'f' then some (c.toNat - 'a'.toNat + 10)
  else if 'A' ≤ c ∧ c ≤ 'F' then some (c.toNat - 'A'.toNat + 10)
  else none

/-- The number that four hexadecimal digits name. -/
def hexUnit? (a b c d : Char) : Option Nat :=
  (([a, b, c, d].mapM hexDigit?).map fun digits => digits.foldl (fun n d => 16 * n + d) 0)

/-- The character that a one-letter escape stands for. -/
def escapedChar? : Char → Option Char
  | '"' => some '"'
  | '\\' => some '\\'
  | '/' => some '/'
  | 'b' => some (Char.ofNat 0x8)
  | 'f' => some (Char.ofNat 0xC)
  | 'n' => some '\n'
  | 'r' => some '\r'
  | 't' => some '\t'
  | _ => none

/-- The character of two UTF-16 units that form a pair. -/
def pairedChar? (high low : Nat) : Option Char :=
  if 0xD800 ≤ high ∧ high < 0xDC00 ∧ 0xDC00 ≤ low ∧ low < 0xE000 then
    some (Char.ofNat (0x10000 + (high - 0xD800) * 0x400 + (low - 0xDC00)))
  else none

/-- The character of one UTF-16 unit; half of a pair on its own becomes the replacement sign. -/
def unitChar (n : Nat) : Char :=
  if 0xD800 ≤ n ∧ n < 0xE000 then Char.ofNat 0xFFFD else Char.ofNat n

/-- Reads a text up to its closing quotation mark. -/
def readTextBody : List Char → Option (List Char × List Char)
  | [] => none
  | '"' :: rest => some ([], rest)
  | '\\' :: 'u' :: a :: b :: c :: d :: '\\' :: 'u' :: e :: f :: g :: h :: rest =>
    match hexUnit? a b c d, hexUnit? e f g h with
    | some high, low? =>
      match low?.bind (pairedChar? high) with
      | some paired => (readTextBody rest).map fun (cs, after) => (paired :: cs, after)
      | none =>
        (readTextBody ('\\' :: 'u' :: e :: f :: g :: h :: rest)).map fun (cs, after) =>
          (unitChar high :: cs, after)
    | none, _ => none
  | '\\' :: 'u' :: a :: b :: c :: d :: rest =>
    match hexUnit? a b c d with
    | some n => (readTextBody rest).map fun (cs, after) => (unitChar n :: cs, after)
    | none => none
  | '\\' :: c :: rest =>
    match escapedChar? c with
    | some e => (readTextBody rest).map fun (cs, after) => (e :: cs, after)
    | none => none
  | c :: rest =>
    if c.toNat < 0x20 || c == '\\' then none
    else (readTextBody rest).map fun (cs, after) => (c :: cs, after)

/-- Reads the digits of a whole number, which has no needless leading zero. -/
def readWhole? : List Char → Option (List Char × List Char)
  | '0' :: rest => some (['0'], rest)
  | cs =>
    let digits := cs.takeWhile isAsciiDigit
    if digits.isEmpty then none else some (digits, cs.dropWhile isAsciiDigit)

/-- Splits off a decimal point with at least one digit after it. -/
def takeFraction : List Char → List Char × List Char
  | '.' :: rest =>
    let digits := rest.takeWhile isAsciiDigit
    if digits.isEmpty then ([], '.' :: rest) else (digits, rest.dropWhile isAsciiDigit)
  | cs => ([], cs)

/-- Splits off an exponent with at least one digit. -/
def takeExponent (cs : List Char) : Option Int × List Char :=
  match cs with
  | [] => (none, cs)
  | e :: rest =>
    if e == 'e' || e == 'E' then
      let (negative, after) := takeSign rest
      let digits := after.takeWhile isAsciiDigit
      if digits.isEmpty then (none, cs)
      else
        let size : Int := natOfDigits (digits.map asciiDigit)
        (some (if negative then -size else size), after.dropWhile isAsciiDigit)
    else (none, cs)

/-- Reads a number. -/
def readJsonNumber? (cs : List Char) : Option (Value × List Char) :=
  let (negative, size) :=
    match cs with
    | '-' :: rest => (true, rest)
    | _ => (false, cs)
  (readWhole? size).map fun (whole, rest) =>
    let (fraction, rest) := takeFraction rest
    let (exponent?, rest) := takeExponent rest
    let digits := natOfDigits ((whole ++ fraction).map asciiDigit)
    if fraction.isEmpty && exponent?.isNone then
      (.int (if negative then -digits else digits), rest)
    else
      let x := floatOfDecimal digits (exponent?.getD 0 - fraction.length)
      (.float (if negative then -x else x), rest)

/-- Drops a word from the front of a text that begins with it. -/
def dropWord? (word : String) (cs : List Char) : Option (List Char) :=
  if word.toList.isPrefixOf cs then some (cs.drop word.length) else none

/-- The values that are written as words. -/
def jsonWords : List (String × Value) :=
  [("null", .null), ("true", .bool true), ("false", .bool false), ("NaN", .float notANumber),
   ("Infinity", .float infinity), ("-Infinity", .float (-infinity))]

/-- Reads a value that is written as a word. -/
def readWord? (cs : List Char) : Option (Value × List Char) :=
  jsonWords.findSome? fun (word, value) => (dropWord? word cs).map (value, ·)

mutual

/-- Reads one value and the white space before it. -/
def readValue? : (depth : Nat) → List Char → Option (Value × List Char)
  | 0, _ => none
  | depth + 1, cs =>
    match skipSpace cs with
    | '"' :: rest => (readTextBody rest).map fun (s, after) => (.text (String.ofList s), after)
    | '[' :: rest =>
      match skipSpace rest with
      | ']' :: after => some (.list [], after)
      | items => (readItems? depth items).map fun (values, after) => (.list values, after)
    | '\x7b' :: rest =>
      match skipSpace rest with
      | '\x7d' :: after => some (.object [], after)
      | fields => (readFields? depth [] fields).map fun (pairs, after) => (.object pairs, after)
    | other => (readWord? other).or (readJsonNumber? other)

/-- Reads the items of a list up to its end. -/
def readItems? : (depth : Nat) → List Char → Option (List Value × List Char)
  | 0, _ => none
  | depth + 1, cs =>
    match readValue? depth cs with
    | none => none
    | some (value, rest) =>
      match skipSpace rest with
      | ',' :: more => (readItems? depth more).map fun (values, after) => (value :: values, after)
      | ']' :: after => some ([value], after)
      | _ => none

/-- Reads the fields of an object up to its end, after those that were read before. -/
def readFields? : (depth : Nat) → Object → List Char → Option (Object × List Char)
  | 0, _, _ => none
  | depth + 1, before, cs =>
    match skipSpace cs with
    | '"' :: rest =>
      match readTextBody rest with
      | none => none
      | some (name, rest) =>
        match skipSpace rest with
        | ':' :: rest =>
          match readValue? depth rest with
          | none => none
          | some (value, rest) =>
            let fields := before.put (String.ofList name) value
            match skipSpace rest with
            | ',' :: more => readFields? depth fields more
            | '\x7d' :: after => some (fields, after)
            | _ => none
        | _ => none
    | _ => none

end

/-- Reads a whole text as one value; a byte order mark may stand in front. -/
def readJson? (s : String) : Option Value :=
  let cs :=
    match s.toList with
    | c :: rest => if c.toNat = 0xFEFF then rest else c :: rest
    | [] => []
  match readValue? (2 * cs.length + 2) cs with
  | some (value, rest) => if (skipSpace rest).isEmpty then some value else none
  | none => none

end ChatFlow

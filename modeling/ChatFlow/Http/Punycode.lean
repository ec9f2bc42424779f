import ChatFlow.Text.Case
import ChatFlow.Text.Search

/-!
# Names of hosts in ASCII

A part of a host's name with other characters than ASCII is written as the ASCII characters in it, a
hyphen, and a list of insertions. An insertion adds the next greater character somewhere; it is the
distance from the one before, in digits of base 36 whose weights adapt to what has been written.
-/

namespace ChatFlow

/-- The digit of a value below 36: the letters, then the ten digits. -/
def punycodeDigit (value : Nat) : Char :=
  if value < 26 then Char.ofNat ('a'.toNat + value) else Char.ofNat ('0'.toNat + (value - 26))

/-- The least value that a digit at a place must have if another digit follows. -/
def punycodeThreshold (place bias : Nat) : Nat :=
  if place ≤ bias then 1 else if bias + 26 ≤ place then 26 else place - bias

/-- The digits of a distance, the least significant first. -/
def punycodeDigits (bias : Nat) : (fuel : Nat) → (place rest : Nat) → List Char
  | 0, _, _ => []
  | fuel + 1, place, rest =>
    let threshold := punycodeThreshold place bias
    if rest < threshold then [punycodeDigit rest]
    else
      punycodeDigit (threshold + (rest - threshold) % (36 - threshold))
        :: punycodeDigits bias fuel (place + 36) ((rest - threshold) / (36 - threshold))

/-- Divides a distance down and counts the steps in the weights of digits. -/
def punycodeScale : (fuel : Nat) → (rest steps : Nat) → Nat
  | 0, _, steps => steps
  | fuel + 1, rest, steps =>
    if 455 < rest then punycodeScale fuel (rest / 35) (steps + 36)
    else steps + 36 * rest / (rest + 38)

/-- The bias after an insertion: the greater the distance was, the greater. -/
def punycodeBias (distance count : Nat) (isFirst : Bool) : Nat :=
  let damped := if isFirst then distance / 700 else distance / 2
  punycodeScale 64 (damped + damped / count) 0

/-- Where the list of insertions stands. -/
structure PunycodeState where
  distance : Nat
  bias : Nat
  /-- The number of characters that are in place. -/
  placed : Nat
  written : List Char

/-- Writes the insertions of one character, walking over all characters of the name. -/
def insertCharacter (code basic : Nat) (state : PunycodeState) : List Nat → PunycodeState
  | [] => { state with distance := state.distance + 1 }
  | c :: rest =>
    if c < code then insertCharacter code basic { state with distance := state.distance + 1 } rest
    else if c = code then
      let digits := punycodeDigits state.bias 64 36 state.distance
      insertCharacter code basic
        ⟨0, punycodeBias state.distance (state.placed + 1) (state.placed == basic),
         state.placed + 1, state.written ++ digits⟩ rest
    else insertCharacter code basic state rest

/-- Writes the insertions of all characters, in ascending order. -/
def insertCharacters (basic : Nat) (label : List Nat) :
    (reached : Nat) → PunycodeState → List Nat → PunycodeState
  | _, state, [] => state
  | reached, state, code :: rest =>
    let ahead := { state with
      distance := state.distance + (code - reached) * (state.placed + 1) }
    insertCharacters basic label (code + 1) (insertCharacter code basic ahead label) rest

/-- A part of a name with characters beyond ASCII, in ASCII. -/
def punycodeLabel (label : List Char) : List Char :=
  let basic := label.filter (·.toNat < 0x80)
  let codes := ((label.map (·.toNat)).filter (0x80 ≤ ·)).mergeSort.eraseDups
  let start := if basic.isEmpty then [] else basic ++ ['-']
  let state : PunycodeState := ⟨0, 72, basic.length, start⟩
  (insertCharacters basic.length (label.map (·.toNat)) 0x80 state codes).written

/-- The name of a host in ASCII and lower case. -/
def asciiHostName (host : String) : String :=
  ".".intercalate <| (splitText "." (toLowerText host)).map fun label =>
    if label.toList.all (·.toNat < 0x80) then label
    else "xn--" ++ String.ofList (punycodeLabel label.toList)

end ChatFlow

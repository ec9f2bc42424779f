import ChatFlow.Crypto.Sha256

/-!
# Bytes as text

Each three bytes are written as four characters of the alphabet that is safe in addresses, and a
shorter rest is filled up with equals signs. Reading is lenient: the signs of the other usual
alphabet count too, other characters are passed over, and what follows the filling is not read.
-/

namespace ChatFlow

/-- The characters for the values from 0 to 63. -/
def base64Alphabet : List Char :=
  "ABCDEFGHIJKLMNOPQRSTUVWXYZabcdefghijklmnopqrstuvwxyz0123456789-_".toList

/-- The character of a value. -/
def base64Char (value : Nat) : Char := base64Alphabet.getD value '='

/-- The value of a character. -/
def base64Value? (c : Char) : Option Nat :=
  if c == '+' then some 62
  else if c == '/' then some 63
  else
    let value := base64Alphabet.idxOf c
    if value < 64 then some value else none

/-- Writes bytes as text. -/
def base64Encode : Bytes → List Char
  | [] => []
  | [a] =>
    let n := a.toNat * 16
    [base64Char (n / 64), base64Char (n % 64), '=', '=']
  | [a, b] =>
    let n := (a.toNat * 256 + b.toNat) * 4
    [base64Char (n / 4096), base64Char (n / 64 % 64), base64Char (n % 64), '=']
  | a :: b :: c :: rest =>
    let n := (a.toNat * 256 + b.toNat) * 256 + c.toNat
    base64Char (n / 262144) :: base64Char (n / 4096 % 64) :: base64Char (n / 64 % 64)
      :: base64Char (n % 64) :: base64Encode rest

/-- Reads text as bytes. `place` counts the characters of the current four, `bits` holds what they
have left over, and `fills` counts the equals signs in a row. Text that ends within four characters
is refused. -/
def base64Read? : (place bits fills : Nat) → List Char → Option Bytes
  | place, _, _, [] => if place = 0 then some [] else none
  | place, bits, fills, c :: rest =>
    if c == '=' then
      if 2 ≤ place then
        if 4 ≤ place + fills + 1 then some [] else base64Read? place bits (fills + 1) rest
      else base64Read? place bits fills rest
    else
      match base64Value? c with
      | none => base64Read? place bits fills rest
      | some value =>
        match place with
        | 0 => base64Read? 1 value 0 rest
        | 1 => (base64Read? 2 (value % 16) 0 rest).map (UInt8.ofNat (bits * 4 + value / 16) :: ·)
        | 2 => (base64Read? 3 (value % 4) 0 rest).map (UInt8.ofNat (bits * 16 + value / 4) :: ·)
        | _ => (base64Read? 0 0 0 rest).map (UInt8.ofNat (bits * 64 + value) :: ·)

/-- Reads text as bytes. -/
def base64Decode? (text : List Char) : Option Bytes :=
  base64Read? 0 0 0 text

end ChatFlow

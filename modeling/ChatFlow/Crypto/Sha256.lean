/-!
# SHA-256

The digest of a text of bytes (`sha256`) and the keyed digest built on it (`hmacSha256`). The text
is padded to blocks of 64 bytes; each block is spread over 64 words, which are stirred one after the
other into a state of eight words.
-/

namespace ChatFlow

/-- A text of bytes. -/
abbrev Bytes := List UInt8

/-- The words that are stirred in with those of a block. -/
def roundWords : List UInt32 :=
  [0x428a2f98, 0x71374491, 0xb5c0fbcf, 0xe9b5dba5, 0x3956c25b, 0x59f111f1, 0x923f82a4, 0xab1c5ed5,
   0xd807aa98, 0x12835b01, 0x243185be, 0x550c7dc3, 0x72be5d74, 0x80deb1fe, 0x9bdc06a7, 0xc19bf174,
   0xe49b69c1, 0xefbe4786, 0x0fc19dc6, 0x240ca1cc, 0x2de92c6f, 0x4a7484aa, 0x5cb0a9dc, 0x76f988da,
   0x983e5152, 0xa831c66d, 0xb00327c8, 0xbf597fc7, 0xc6e00bf3, 0xd5a79147, 0x06ca6351, 0x14292967,
   0x27b70a85, 0x2e1b2138, 0x4d2c6dfc, 0x53380d13, 0x650a7354, 0x766a0abb, 0x81c2c92e, 0x92722c85,
   0xa2bfe8a1, 0xa81a664b, 0xc24b8b70, 0xc76c51a3, 0xd192e819, 0xd6990624, 0xf40e3585, 0x106aa070,
   0x19a4c116, 0x1e376c08, 0x2748774c, 0x34b0bcb5, 0x391c0cb3, 0x4ed8aa4a, 0x5b9cca4f, 0x682e6ff3,
   0x748f82ee, 0x78a5636f, 0x84c87814, 0x8cc70208, 0x90befffa, 0xa4506ceb, 0xbef9a3f7, 0xc67178f2]

/-- The state of eight words. -/
structure DigestState where
  a : UInt32
  b : UInt32
  c : UInt32
  d : UInt32
  e : UInt32
  f : UInt32
  g : UInt32
  h : UInt32

/-- The state at the start. -/
def DigestState.initial : DigestState :=
  ⟨0x6a09e667, 0xbb67ae85, 0x3c6ef372, 0xa54ff53a,
   0x510e527f, 0x9b05688c, 0x1f83d9ab, 0x5be0cd19⟩

/-- Turns a word to the right by some bits, between 1 and 31. -/
def turnRight (w : UInt32) (bits : UInt32) : UInt32 :=
  (w >>> bits) ||| (w <<< (32 - bits))

/-- A number as bytes, the most significant first. -/
def bigEndian : (count : Nat) → Nat → Bytes
  | 0, _ => []
  | count + 1, n => bigEndian count (n / 256) ++ [UInt8.ofNat (n % 256)]

/-- The word that four bytes form, the most significant first. -/
def wordOfBytes (bytes : Bytes) : UInt32 :=
  UInt32.ofNat (bytes.foldl (fun n b => 256 * n + b.toNat) 0)

/-- Cuts a list into pieces of a length, the last of which may be shorter. -/
def chunks {α : Type} (size : Nat) : (fuel : Nat) → List α → List (List α)
  | 0, _ => []
  | _, [] => []
  | fuel + 1, items => items.take size :: chunks size fuel (items.drop size)

/-- The message with a mark at its end, filled up to whole blocks, the last eight bytes of which
hold its length in bits. -/
def paddedMessage (message : Bytes) : Bytes :=
  let zeros := (119 - message.length % 64) % 64
  message ++ 0x80 :: List.replicate zeros 0 ++ bigEndian 8 (8 * message.length)

/-- The next word of a schedule, whose words so far come last first. -/
def nextWord (words : List UInt32) : UInt32 :=
  let old (i : Nat) : UInt32 := words.getD (i - 1) 0
  let near := old 2
  let far := old 15
  let mixNear := turnRight near 17 ^^^ turnRight near 19 ^^^ (near >>> 10)
  let mixFar := turnRight far 7 ^^^ turnRight far 18 ^^^ (far >>> 3)
  mixNear + old 7 + mixFar + old 16

/-- The 64 words over which a block is spread. -/
def schedule (block : Bytes) : List UInt32 :=
  let first := ((chunks 4 16 block).map wordOfBytes).reverse
  ((List.range 48).foldl (fun words _ => nextWord words :: words) first).reverse

/-- Stirs one word into the state. -/
def DigestState.stir (s : DigestState) (word constant : UInt32) : DigestState :=
  let mixE := turnRight s.e 6 ^^^ turnRight s.e 11 ^^^ turnRight s.e 25
  let choice := (s.e &&& s.f) ^^^ ((~~~ s.e) &&& s.g)
  let t := s.h + mixE + choice + constant + word
  let mixA := turnRight s.a 2 ^^^ turnRight s.a 13 ^^^ turnRight s.a 22
  let majority := (s.a &&& s.b) ^^^ (s.a &&& s.c) ^^^ (s.b &&& s.c)
  ⟨t + mixA + majority, s.a, s.b, s.c, s.d + t, s.e, s.f, s.g⟩

/-- Stirs a block into the state. -/
def DigestState.absorb (s : DigestState) (block : Bytes) : DigestState :=
  let t := ((schedule block).zip roundWords).foldl
    (fun t (word, constant) => t.stir word constant) s
  ⟨s.a + t.a, s.b + t.b, s.c + t.c, s.d + t.d, s.e + t.e, s.f + t.f, s.g + t.g, s.h + t.h⟩

/-- The words of the state as bytes. -/
def DigestState.bytes (s : DigestState) : Bytes :=
  [s.a, s.b, s.c, s.d, s.e, s.f, s.g, s.h].flatMap fun w => bigEndian 4 w.toNat

/-- The digest of a text of bytes. -/
def sha256 (message : Bytes) : Bytes :=
  let padded := paddedMessage message
  ((chunks 64 padded.length padded).foldl DigestState.absorb .initial).bytes

/-- A key of at most a block, filled up with zeros; a longer one is replaced by its digest. -/
def blockKey (key : Bytes) : Bytes :=
  let short := if 64 < key.length then sha256 key else key
  short ++ List.replicate (64 - short.length) 0

/-- The keyed digest of a text of bytes. -/
def hmacSha256 (key message : Bytes) : Bytes :=
  let padded := blockKey key
  sha256 (padded.map (· ^^^ 0x5C) ++ sha256 (padded.map (· ^^^ 0x36) ++ message))

end ChatFlow

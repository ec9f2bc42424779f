import ChatFlow.Crypto.Sha256

/-!
# AES with keys of 128 bits, in blocks that are chained

A block of 16 bytes is a square of four columns. `aesEncryptBlock` and `aesDecryptBlock` undo each
other. In a chain each block is first mixed with the encrypted block before it (`encryptChain`); the
text is filled up to whole blocks with bytes that tell their number (`pad`, `unpad?`).
-/

namespace ChatFlow

/-- Twice a byte in the field of 256 elements. -/
def doubleByte (b : UInt8) : UInt8 :=
  if b < 0x80 then b <<< 1 else (b <<< 1) ^^^ 0x1B

/-- The product of two bytes in the field of 256 elements, by the bits of the first. -/
def timesByte (a b : UInt8) : UInt8 :=
  ((List.range 8).foldl (fun (sum, b) i =>
    (if a.toNat.testBit i then sum ^^^ b else sum, doubleByte b)) ((0 : UInt8), b)).1

/-- The inverse of a byte in the field, zero for zero: its power to 254. -/
def inverseByte (b : UInt8) : UInt8 :=
  let square (x : UInt8) := timesByte x x
  let step (x : UInt8) := timesByte (square x) b
  square (step (step (step (step (step (step b))))))

/-- Turns a byte to the left. -/
def turnByte (b : UInt8) (bits : UInt8) : UInt8 :=
  (b <<< bits) ||| (b >>> (8 - bits))

/-- The byte that stands for a byte in an encrypted block. -/
def computeSubstitute (b : UInt8) : UInt8 :=
  let x := inverseByte b
  x ^^^ turnByte x 1 ^^^ turnByte x 2 ^^^ turnByte x 3 ^^^ turnByte x 4 ^^^ 0x63

/-- The substitutes of all bytes, in order. -/
def substitutes : Array UInt8 :=
  (Array.range 256).map fun i => computeSubstitute (UInt8.ofNat i)

/-- The bytes whose substitutes are all bytes, in order. -/
def sourceBytes : Array UInt8 :=
  (Array.range 256).foldl (fun table i =>
    table.setIfInBounds (substitutes.getD i 0).toNat (UInt8.ofNat i)) (Array.replicate 256 0)

/-- The substitute of a byte. -/
def substitute (b : UInt8) : UInt8 := substitutes.getD b.toNat 0

/-- The byte that a byte is the substitute of. -/
def sourceByte (b : UInt8) : UInt8 := sourceBytes.getD b.toNat 0

/-- Mixes two texts of bytes, byte by byte. -/
def mixBytes (a b : Bytes) : Bytes :=
  List.zipWith (· ^^^ ·) a b

/-- The next round key of four columns, with the number that marks the round. -/
def nextRoundKey (key : Bytes) (mark : UInt8) : Bytes :=
  let column (i : Nat) : Bytes := (key.drop (4 * i)).take 4
  let last := column 3
  let turned := (last.drop 1 ++ last.take 1).map substitute
  let first := mixBytes (mixBytes (column 0) turned) [mark, 0, 0, 0]
  let second := mixBytes (column 1) first
  let third := mixBytes (column 2) second
  first ++ second ++ third ++ mixBytes (column 3) third

/-- The keys of all rounds. -/
def roundKeys (key : Bytes) : List Bytes :=
  ((List.range 10).foldl (fun (keys, current, mark) _ =>
    let next := nextRoundKey current mark
    (keys ++ [next], next, doubleByte mark)) ([key], key, (1 : UInt8))).1

/-- Moves the bytes of a block: the byte at each place comes from the place that `source` names. -/
def moveBytes (source : Nat → Nat) (block : Bytes) : Bytes :=
  (List.range 16).map fun i => block.getD (source i) 0

/-- Turns the rows of a block to the left, each by its number. -/
def shiftRows (block : Bytes) : Bytes :=
  moveBytes (fun i => (i + 4 * (i % 4)) % 16) block

/-- Turns the rows of a block back. -/
def unshiftRows (block : Bytes) : Bytes :=
  moveBytes (fun i => (i + 16 - 4 * (i % 4)) % 16) block

/-- Multiplies a column by the circulant matrix with the given first row. -/
def mixColumn (row : List UInt8) (column : Bytes) : Bytes :=
  (List.range 4).map fun i =>
    (List.range 4).foldl (fun sum j =>
      sum ^^^ timesByte (row.getD ((j + 4 - i) % 4) 0) (column.getD j 0)) 0

/-- Multiplies the columns of a block. -/
def mixColumns (row : List UInt8) (block : Bytes) : Bytes :=
  (chunks 4 4 block).flatMap (mixColumn row)

/-- Encrypts a block with the keys of the rounds. -/
def aesEncryptBlock (keys : List Bytes) (block : Bytes) : Bytes :=
  match keys with
  | [] => block
  | first :: rest =>
    let round (state key : Bytes) : Bytes :=
      mixBytes (mixColumns [2, 3, 1, 1] (shiftRows (state.map substitute))) key
    let state := rest.dropLast.foldl round (mixBytes block first)
    mixBytes (shiftRows (state.map substitute)) (rest.getLast?.getD [])

/-- Decrypts a block with the keys of the rounds. -/
def aesDecryptBlock (keys : List Bytes) (block : Bytes) : Bytes :=
  match keys.reverse with
  | [] => block
  | last :: rest =>
    let round (state key : Bytes) : Bytes :=
      mixColumns [14, 11, 13, 9] (mixBytes ((unshiftRows state).map sourceByte) key)
    let state := rest.dropLast.foldl round (mixBytes block last)
    mixBytes ((unshiftRows state).map sourceByte) (rest.getLast?.getD [])

/-- Encrypts blocks in a chain that begins with a given block. -/
def encryptChain (keys : List Bytes) : Bytes → List Bytes → Bytes
  | _, [] => []
  | before, block :: rest =>
    let encrypted := aesEncryptBlock keys (mixBytes block before)
    encrypted ++ encryptChain keys encrypted rest

/-- Decrypts blocks in a chain that begins with a given block. -/
def decryptChain (keys : List Bytes) : Bytes → List Bytes → Bytes
  | _, [] => []
  | before, block :: rest =>
    mixBytes (aesDecryptBlock keys block) before ++ decryptChain keys block rest

/-- Fills a text up to whole blocks with bytes that tell how many they are. -/
def pad (text : Bytes) : Bytes :=
  let count := 16 - text.length % 16
  text ++ List.replicate count (UInt8.ofNat count)

/-- Takes the filling off a text of whole blocks. -/
def unpad? (text : Bytes) : Option Bytes :=
  let count := (text.getLast?.getD 0).toNat
  let kept := text.take (text.length - count)
  if count = 0 || 16 < count || text.length < count then none
  else if (text.drop kept.length).all (·.toNat == count) then some kept
  else none

/-- Encrypts a text with a key and a block to begin the chain with. -/
def aesEncrypt (key start text : Bytes) : Bytes :=
  let padded := pad text
  encryptChain (roundKeys key) start (chunks 16 padded.length padded)

/-- Decrypts a text with a key and the block that its chain begins with. -/
def aesDecrypt? (key start text : Bytes) : Option Bytes :=
  if text.length % 16 ≠ 0 || start.length ≠ 16 then none
  else unpad? (decryptChain (roundKeys key) start (chunks 16 text.length text))

end ChatFlow

import SwapWatch.Bytes

/-!
# Digests

The digests that name transactions, blocks and scripts, and the two hash functions behind them.
-/

set_option autoImplicit false

/-!
## Padding

Both hash functions cut a message into blocks of sixty-four bytes, after one set bit, zeros and
the bit length have filled it up. They differ in the byte order of the length and of the words.
-/

namespace SwapWatch.Hash

/-- The set bit and the zeros that leave room for the length at the end of a block. -/
def padding (size : Nat) : Bytes :=
  0x80 :: List.replicate ((119 - size % 64) % 64) 0

/-- A message filled up for words that are written lowest byte first. -/
def padLittle (message : Bytes) : Bytes :=
  message ++ padding message.length ++ Endian.ofNat 8 (8 * message.length)

/-- A message filled up for words that are written highest byte first. -/
def padBig (message : Bytes) : Bytes :=
  message ++ padding message.length ++ (Endian.ofNat 8 (8 * message.length)).reverse

def rotateLeft (word amount : UInt32) : UInt32 :=
  (word <<< amount) ||| (word >>> (32 - amount))

def wordsLittle : Bytes → List UInt32
  | b0 :: b1 :: b2 :: b3 :: bytes =>
    (b0.toUInt32 ||| b1.toUInt32 <<< 8 ||| b2.toUInt32 <<< 16 ||| b3.toUInt32 <<< 24) ::
      wordsLittle bytes
  | _ => []

def wordsBig : Bytes → List UInt32
  | b0 :: b1 :: b2 :: b3 :: bytes =>
    (b3.toUInt32 ||| b2.toUInt32 <<< 8 ||| b1.toUInt32 <<< 16 ||| b0.toUInt32 <<< 24) ::
      wordsBig bytes
  | _ => []

def absorb {State : Type} (compress : State → Bytes → State) : Nat → Bytes → State → State
  | 0, _, state => state
  | count + 1, bytes, state =>
    absorb compress count (bytes.drop 64) (compress state (bytes.take 64))

end SwapWatch.Hash

/-! ## SHA-256 -/

namespace SwapWatch.Hash.Sha256

structure Lanes where
  a : UInt32
  b : UInt32
  c : UInt32
  d : UInt32
  e : UInt32
  f : UInt32
  g : UInt32
  h : UInt32

/-- The fractional parts of the square roots of the first eight primes. -/
def start : Lanes :=
  ⟨0x6a09e667, 0xbb67ae85, 0x3c6ef372, 0xa54ff53a, 0x510e527f, 0x9b05688c, 0x1f83d9ab, 0x5be0cd19⟩

/-- The fractional parts of the cube roots of the first sixty-four primes. -/
def roundConstants : List UInt32 :=
  [0x428a2f98, 0x71374491, 0xb5c0fbcf, 0xe9b5dba5, 0x3956c25b, 0x59f111f1, 0x923f82a4, 0xab1c5ed5,
   0xd807aa98, 0x12835b01, 0x243185be, 0x550c7dc3, 0x72be5d74, 0x80deb1fe, 0x9bdc06a7, 0xc19bf174,
   0xe49b69c1, 0xefbe4786, 0x0fc19dc6, 0x240ca1cc, 0x2de92c6f, 0x4a7484aa, 0x5cb0a9dc, 0x76f988da,
   0x983e5152, 0xa831c66d, 0xb00327c8, 0xbf597fc7, 0xc6e00bf3, 0xd5a79147, 0x06ca6351, 0x14292967,
   0x27b70a85, 0x2e1b2138, 0x4d2c6dfc, 0x53380d13, 0x650a7354, 0x766a0abb, 0x81c2c92e, 0x92722c85,
   0xa2bfe8a1, 0xa81a664b, 0xc24b8b70, 0xc76c51a3, 0xd192e819, 0xd6990624, 0xf40e3585, 0x106aa070,
   0x19a4c116, 0x1e376c08, 0x2748774c, 0x34b0bcb5, 0x391c0cb3, 0x4ed8aa4a, 0x5b9cca4f, 0x682e6ff3,
   0x748f82ee, 0x78a5636f, 0x84c87814, 0x8cc70208, 0x90befffa, 0xa4506ceb, 0xbef9a3f7, 0xc67178f2]

def rotateRight (word amount : UInt32) : UInt32 :=
  rotateLeft word (32 - amount)

/-- The message schedule: every word after the sixteenth mixes four of the sixteen before it. -/
def schedule : Nat → List UInt32 → List UInt32
  | 0, _ => []
  | count + 1, window =>
    let w0 := window.getD 0 0
    let w1 := window.getD 1 0
    let w14 := window.getD 14 0
    let mixed1 := rotateRight w1 7 ^^^ rotateRight w1 18 ^^^ (w1 >>> 3)
    let mixed14 := rotateRight w14 17 ^^^ rotateRight w14 19 ^^^ (w14 >>> 10)
    w0 :: schedule count (window.drop 1 ++ [mixed14 + window.getD 9 0 + mixed1 + w0])

def round (lanes : Lanes) (key : UInt32 × UInt32) : Lanes :=
  let turnedE := rotateRight lanes.e 6 ^^^ rotateRight lanes.e 11 ^^^ rotateRight lanes.e 25
  let choice := (lanes.e &&& lanes.f) ^^^ (~~~ lanes.e &&& lanes.g)
  let first := lanes.h + turnedE + choice + key.1 + key.2
  let turnedA := rotateRight lanes.a 2 ^^^ rotateRight lanes.a 13 ^^^ rotateRight lanes.a 22
  let majority := (lanes.a &&& lanes.b) ^^^ (lanes.a &&& lanes.c) ^^^ (lanes.b &&& lanes.c)
  ⟨first + turnedA + majority, lanes.a, lanes.b, lanes.c, lanes.d + first, lanes.e, lanes.f, lanes.g⟩

def compress (state : Lanes) (block : Bytes) : Lanes :=
  let mixed := (roundConstants.zip (schedule 64 (wordsBig block))).foldl round state
  ⟨state.a + mixed.a, state.b + mixed.b, state.c + mixed.c, state.d + mixed.d,
   state.e + mixed.e, state.f + mixed.f, state.g + mixed.g, state.h + mixed.h⟩

/-- The bytes of the state, highest byte of each word first. -/
def Lanes.toBytes (lanes : Lanes) : Bytes :=
  [lanes.a, lanes.b, lanes.c, lanes.d, lanes.e, lanes.f, lanes.g, lanes.h].flatMap
    fun word => (Endian.ofNat 4 word.toNat).reverse

end SwapWatch.Hash.Sha256

namespace SwapWatch.Hash

def sha256 (message : Bytes) : Bytes :=
  let padded := padBig message
  (absorb Sha256.compress (padded.length / 64) padded Sha256.start).toBytes

@[simp]
theorem length_sha256 (message : Bytes) : (sha256 message).length = 32 := by
  simp [sha256, Sha256.Lanes.toBytes]

end SwapWatch.Hash

/-!
## RIPEMD-160

Two lines of eighty rounds run over the same block with different word orders, turns, functions
and constants, and are added crosswise to the state.
-/

namespace SwapWatch.Hash.Ripemd160

structure Lanes where
  a : UInt32
  b : UInt32
  c : UInt32
  d : UInt32
  e : UInt32

def start : Lanes :=
  ⟨0x67452301, 0xefcdab89, 0x98badcfe, 0x10325476, 0xc3d2e1f0⟩

/-- The word that each round of the left line takes. -/
def leftWords : List Nat :=
  [0, 1, 2, 3, 4, 5, 6, 7, 8, 9, 10, 11, 12, 13, 14, 15,
   7, 4, 13, 1, 10, 6, 15, 3, 12, 0, 9, 5, 2, 14, 11, 8,
   3, 10, 14, 4, 9, 15, 8, 1, 2, 7, 0, 6, 13, 11, 5, 12,
   1, 9, 11, 10, 0, 8, 12, 4, 13, 3, 7, 15, 14, 5, 6, 2,
   4, 0, 5, 9, 7, 12, 2, 10, 14, 1, 3, 8, 11, 6, 15, 13]

def rightWords : List Nat :=
  [5, 14, 7, 0, 9, 2, 11, 4, 13, 6, 15, 8, 1, 10, 3, 12,
   6, 11, 3, 7, 0, 13, 5, 10, 14, 15, 8, 12, 4, 9, 1, 2,
   15, 5, 1, 3, 7, 14, 6, 9, 11, 8, 12, 2, 10, 0, 4, 13,
   8, 6, 4, 1, 3, 11, 15, 0, 5, 12, 2, 13, 9, 7, 10, 14,
   12, 15, 10, 4, 1, 5, 8, 7, 6, 2, 13, 14, 0, 3, 9, 11]

def leftTurns : List UInt32 :=
  [11, 14, 15, 12, 5, 8, 7, 9, 11, 13, 14, 15, 6, 7, 9, 8,
   7, 6, 8, 13, 11, 9, 7, 15, 7, 12, 15, 9, 11, 7, 13, 12,
   11, 13, 6, 7, 14, 9, 13, 15, 14, 8, 13, 6, 5, 12, 7, 5,
   11, 12, 14, 15, 14, 15, 9, 8, 9, 14, 5, 6, 8, 6, 5, 12,
   9, 15, 5, 11, 6, 8, 13, 12, 5, 12, 13, 14, 11, 8, 5, 6]

def rightTurns : List UInt32 :=
  [8, 9, 9, 11, 13, 15, 15, 5, 7, 7, 8, 11, 14, 14, 12, 6,
   9, 13, 15, 7, 12, 8, 9, 11, 7, 7, 12, 7, 6, 15, 13, 11,
   9, 7, 15, 11, 8, 6, 6, 14, 12, 13, 5, 14, 13, 13, 7, 5,
   15, 5, 8, 11, 14, 14, 6, 14, 6, 9, 12, 9, 12, 5, 15, 8,
   8, 5, 12, 9, 12, 5, 14, 6, 8, 13, 6, 5, 15, 13, 11, 11]

/-- The bitwise function of one of the five groups of sixteen rounds. -/
def mix : Nat → UInt32 → UInt32 → UInt32 → UInt32
  | 0, x, y, z => x ^^^ y ^^^ z
  | 1, x, y, z => (x &&& y) ||| (~~~ x &&& z)
  | 2, x, y, z => (x ||| ~~~ y) ^^^ z
  | 3, x, y, z => (x &&& z) ||| (y &&& ~~~ z)
  | _, x, y, z => x ^^^ (y ||| ~~~ z)

def leftConstants : List UInt32 :=
  [0x00000000, 0x5a827999, 0x6ed9eba1, 0x8f1bbcdc, 0xa953fd4e]

def rightConstants : List UInt32 :=
  [0x50a28be6, 0x5c4dd124, 0x6d703ef3, 0x7a6d76e9, 0x00000000]

def round (group : Nat) (constant word turn : UInt32) (lanes : Lanes) : Lanes :=
  let sum := lanes.a + mix group lanes.b lanes.c lanes.d + word + constant
  ⟨lanes.e, rotateLeft sum turn + lanes.e, lanes.b, rotateLeft lanes.c 10, lanes.d⟩

def leftLine (words : List UInt32) (lanes : Lanes) : Lanes :=
  ((leftWords.zip leftTurns).zipIdx).foldl
    (fun lanes ((index, turn), position) =>
      round (position / 16) (leftConstants.getD (position / 16) 0) (words.getD index 0) turn lanes)
    lanes

/-- The eighty rounds of the right line, whose groups take the functions in reverse. -/
def rightLine (words : List UInt32) (lanes : Lanes) : Lanes :=
  ((rightWords.zip rightTurns).zipIdx).foldl
    (fun lanes ((index, turn), position) =>
      round (4 - position / 16) (rightConstants.getD (position / 16) 0) (words.getD index 0) turn
        lanes)
    lanes

def compress (state : Lanes) (block : Bytes) : Lanes :=
  let words := wordsLittle block
  let left := leftLine words state
  let right := rightLine words state
  ⟨state.b + left.c + right.d, state.c + left.d + right.e, state.d + left.e + right.a,
   state.e + left.a + right.b, state.a + left.b + right.c⟩

/-- The bytes of the state, lowest byte of each word first. -/
def Lanes.toBytes (lanes : Lanes) : Bytes :=
  [lanes.a, lanes.b, lanes.c, lanes.d, lanes.e].flatMap fun word => Endian.ofNat 4 word.toNat

end SwapWatch.Hash.Ripemd160

namespace SwapWatch.Hash

def ripemd160 (message : Bytes) : Bytes :=
  let padded := padLittle message
  (absorb Ripemd160.compress (padded.length / 64) padded Ripemd160.start).toBytes

@[simp]
theorem length_ripemd160 (message : Bytes) : (ripemd160 message).length = 20 := by
  simp [ripemd160, Ripemd160.Lanes.toBytes]

/-!
## Digests of the chain

Transactions and headers are named by a double SHA-256, scripts by a RIPEMD-160 of a SHA-256.
-/

/-- The digest that names transactions and headers. -/
def doubleSha256 (message : Bytes) : Bytes :=
  sha256 (sha256 message)

/-- The digest to which a script-hash output commits. -/
def hash160 (message : Bytes) : Bytes :=
  ripemd160 (sha256 message)

@[simp]
theorem length_doubleSha256 (message : Bytes) : (doubleSha256 message).length = 32 :=
  length_sha256 _

@[simp]
theorem length_hash160 (message : Bytes) : (hash160 message).length = 20 :=
  length_ripemd160 _

end SwapWatch.Hash

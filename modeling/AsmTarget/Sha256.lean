/-
**SHA-256.**

The message is padded to whole blocks of sixteen words. Each block is spread over sixty-four words,
and each of these is mixed into a state of eight words; the last state, byte by byte, is the digest.

* `padded`: a message with the mark, the zeros and the length that fill its last block;
* `schedule`: the sixty-four words of a block;
* `digest`: the thirty-two bytes of a message.
-/

namespace AsmTarget.Sha256

/-- A digest is thirty-two bytes. -/
abbrev Digest := Vector UInt8 32

/-! ### Constants and mixing functions -/

/-- The constants of the sixty-four rounds: the first bits of the cube roots of the primes. -/
def roundConstants : List UInt32 :=
  [0x428a2f98, 0x71374491, 0xb5c0fbcf, 0xe9b5dba5, 0x3956c25b, 0x59f111f1, 0x923f82a4, 0xab1c5ed5,
    0xd807aa98, 0x12835b01, 0x243185be, 0x550c7dc3, 0x72be5d74, 0x80deb1fe, 0x9bdc06a7, 0xc19bf174,
    0xe49b69c1, 0xefbe4786, 0x0fc19dc6, 0x240ca1cc, 0x2de92c6f, 0x4a7484aa, 0x5cb0a9dc, 0x76f988da,
    0x983e5152, 0xa831c66d, 0xb00327c8, 0xbf597fc7, 0xc6e00bf3, 0xd5a79147, 0x06ca6351, 0x14292967,
    0x27b70a85, 0x2e1b2138, 0x4d2c6dfc, 0x53380d13, 0x650a7354, 0x766a0abb, 0x81c2c92e, 0x92722c85,
    0xa2bfe8a1, 0xa81a664b, 0xc24b8b70, 0xc76c51a3, 0xd192e819, 0xd6990624, 0xf40e3585, 0x106aa070,
    0x19a4c116, 0x1e376c08, 0x2748774c, 0x34b0bcb5, 0x391c0cb3, 0x4ed8aa4a, 0x5b9cca4f, 0x682e6ff3,
    0x748f82ee, 0x78a5636f, 0x84c87814, 0x8cc70208, 0x90befffa, 0xa4506ceb, 0xbef9a3f7, 0xc67178f2]

/-- A word turned to the right by a number of bits between one and thirty-one. -/
def rotated (word : UInt32) (amount : UInt32) : UInt32 :=
  (word >>> amount) ||| (word <<< (32 - amount))

/-- The first function that extends the words of a block. -/
def smallSigma0 (x : UInt32) : UInt32 := rotated x 7 ^^^ rotated x 18 ^^^ (x >>> 3)

/-- The second function that extends the words of a block. -/
def smallSigma1 (x : UInt32) : UInt32 := rotated x 17 ^^^ rotated x 19 ^^^ (x >>> 10)

/-- The function that mixes the first word of the state. -/
def bigSigma0 (x : UInt32) : UInt32 := rotated x 2 ^^^ rotated x 13 ^^^ rotated x 22

/-- The function that mixes the fifth word of the state. -/
def bigSigma1 (x : UInt32) : UInt32 := rotated x 6 ^^^ rotated x 11 ^^^ rotated x 25

/-- The bits of the second word where the first has ones, those of the third elsewhere. -/
def choice (x y z : UInt32) : UInt32 := (x &&& y) ^^^ ((~~~x) &&& z)

/-- The bits that at least two of three words have. -/
def majority (x y z : UInt32) : UInt32 := (x &&& y) ^^^ (x &&& z) ^^^ (y &&& z)

/-! ### Padding and blocks -/

/-- A number as bytes, the most significant first. -/
def bigEndian (count value : Nat) : List UInt8 :=
  (List.range count).map fun place => UInt8.ofNat (value >>> (8 * (count - 1 - place)))

/-- The number of zeros between the mark and the length of a message. -/
def zerosFor (size : Nat) : Nat :=
  (119 - size % 64) % 64

/-- A message filled up to whole blocks. -/
def padded (message : List UInt8) : List UInt8 :=
  message ++ 0x80 :: (List.replicate (zerosFor message.length) 0 ++
    bigEndian 8 (8 * message.length))

/-- Bytes as words, the most significant byte of each first. -/
def toWords : List UInt8 → List UInt32
  | a :: b :: c :: d :: rest =>
    (a.toUInt32 <<< 24 ||| b.toUInt32 <<< 16 ||| c.toUInt32 <<< 8 ||| d.toUInt32) :: toWords rest
  | _ => []

/-- Words continued by a number of further ones. The words are given with the latest first, and
so is the result. -/
def extended (latest : List UInt32) : Nat → List UInt32
  | 0 => latest
  | count + 1 =>
    let next := smallSigma1 (latest.getD 1 0) + latest.getD 6 0 +
      smallSigma0 (latest.getD 14 0) + latest.getD 15 0
    extended (next :: latest) count

/-- The sixty-four words of a block of sixteen. -/
def schedule (block : List UInt32) : List UInt32 :=
  (extended block.reverse 48).reverse

/-! ### The state -/

/-- The eight words that a message is mixed into. -/
structure State where
  a : UInt32
  b : UInt32
  c : UInt32
  d : UInt32
  e : UInt32
  f : UInt32
  g : UInt32
  h : UInt32
  deriving DecidableEq, Repr

namespace State

/-- The first bits of the square roots of the first eight primes. -/
def initial : State :=
  ⟨0x6a09e667, 0xbb67ae85, 0x3c6ef372, 0xa54ff53a,
    0x510e527f, 0x9b05688c, 0x1f83d9ab, 0x5be0cd19⟩

/-- One round, with a constant and a word of the message. -/
def round (state : State) (constant word : UInt32) : State :=
  let first := state.h + bigSigma1 state.e + choice state.e state.f state.g + constant + word
  let second := bigSigma0 state.a + majority state.a state.b state.c
  ⟨first + second, state.a, state.b, state.c, state.d + first, state.e, state.f, state.g⟩

/-- The sum of two states, word by word. -/
def sum (first second : State) : State :=
  ⟨first.a + second.a, first.b + second.b, first.c + second.c, first.d + second.d,
    first.e + second.e, first.f + second.f, first.g + second.g, first.h + second.h⟩

/-- The state after a block. -/
def absorb (state : State) (block : List UInt32) : State :=
  let mixed := (roundConstants.zip (schedule block)).foldl
    (fun current (constant, word) => current.round constant word) state
  state.sum mixed

/-- The words of a state, in order. -/
def words (state : State) : Vector UInt32 8 :=
  #v[state.a, state.b, state.c, state.d, state.e, state.f, state.g, state.h]

/-- The state after whole blocks, as many as the second argument says. -/
def absorbAll (state : State) (words : List UInt32) : Nat → State
  | 0 => state
  | count + 1 => (state.absorb (words.take 16)).absorbAll (words.drop 16) count

end State

/-- The digest of a message. -/
def digest (message : List UInt8) : Digest :=
  let words := toWords (padded message)
  let final := (State.initial.absorbAll words (words.length / 16)).words
  Vector.ofFn fun place =>
    (final[place.val / 4] >>> (24 - 8 * UInt32.ofNat (place.val % 4))).toUInt8

end AsmTarget.Sha256

/-!
# Digests of texts

A digest is the 32-bit number at the head of the SHA-256 hash of a text, read with the most
significant byte first. It depends on the bytes of the text alone, so a name derived from it is
the same in every run and on every machine.

The hash is written over lists: `Sha256.pad` completes a message to whole blocks,
`Sha256.schedule` spreads a block over sixty-four words, and `Sha256.compress` folds those words
into the eight words of the state.
-/

namespace ObjectQuery

namespace Sha256

/-- The eight words that carry the hash from block to block. -/
structure State where
  a : UInt32
  b : UInt32
  c : UInt32
  d : UInt32
  e : UInt32
  f : UInt32
  g : UInt32
  h : UInt32
deriving DecidableEq, Repr

/-- The fractional parts of the square roots of the first eight primes, 32 bits of each. -/
def State.initial : State where
  a := 0x6a09e667
  b := 0xbb67ae85
  c := 0x3c6ef372
  d := 0xa54ff53a
  e := 0x510e527f
  f := 0x9b05688c
  g := 0x1f83d9ab
  h := 0x5be0cd19

/-- The fractional parts of the cube roots of the first sixty-four primes, 32 bits of each. -/
def roundConstants : List UInt32 :=
  [0x428a2f98, 0x71374491, 0xb5c0fbcf, 0xe9b5dba5, 0x3956c25b, 0x59f111f1, 0x923f82a4, 0xab1c5ed5,
   0xd807aa98, 0x12835b01, 0x243185be, 0x550c7dc3, 0x72be5d74, 0x80deb1fe, 0x9bdc06a7, 0xc19bf174,
   0xe49b69c1, 0xefbe4786, 0x0fc19dc6, 0x240ca1cc, 0x2de92c6f, 0x4a7484aa, 0x5cb0a9dc, 0x76f988da,
   0x983e5152, 0xa831c66d, 0xb00327c8, 0xbf597fc7, 0xc6e00bf3, 0xd5a79147, 0x06ca6351, 0x14292967,
   0x27b70a85, 0x2e1b2138, 0x4d2c6dfc, 0x53380d13, 0x650a7354, 0x766a0abb, 0x81c2c92e, 0x92722c85,
   0xa2bfe8a1, 0xa81a664b, 0xc24b8b70, 0xc76c51a3, 0xd192e819, 0xd6990624, 0xf40e3585, 0x106aa070,
   0x19a4c116, 0x1e376c08, 0x2748774c, 0x34b0bcb5, 0x391c0cb3, 0x4ed8aa4a, 0x5b9cca4f, 0x682e6ff3,
   0x748f82ee, 0x78a5636f, 0x84c87814, 0x8cc70208, 0x90befffa, 0xa4506ceb, 0xbef9a3f7, 0xc67178f2]

def rotateRight (word amount : UInt32) : UInt32 :=
  (word >>> amount) ||| (word <<< (32 - amount))

/-- One round: a schedule word and its constant are mixed into the state. -/
def round (state : State) (word constant : UInt32) : State :=
  let sum₁ := rotateRight state.e 6 ^^^ rotateRight state.e 11 ^^^ rotateRight state.e 25
  let choice := (state.e &&& state.f) ^^^ (~~~state.e &&& state.g)
  let first := state.h + sum₁ + choice + constant + word
  let sum₀ := rotateRight state.a 2 ^^^ rotateRight state.a 13 ^^^ rotateRight state.a 22
  let majority := (state.a &&& state.b) ^^^ (state.a &&& state.c) ^^^ (state.b &&& state.c)
  { a := first + (sum₀ + majority), b := state.a, c := state.b, d := state.c
    e := state.d + first, f := state.e, g := state.f, h := state.g }

/-- The word that follows sixteen words of a schedule. -/
def nextWord (window : List UInt32) : UInt32 :=
  let early := window.getD 1 0
  let late := window.getD 14 0
  let sum₀ := rotateRight early 7 ^^^ rotateRight early 18 ^^^ (early >>> 3)
  let sum₁ := rotateRight late 17 ^^^ rotateRight late 19 ^^^ (late >>> 10)
  window.getD 0 0 + sum₀ + window.getD 9 0 + sum₁

/-- The first `count` words of the schedule that starts with the sixteen words of `window`. -/
def schedule : Nat → List UInt32 → List UInt32
  | 0, _ => []
  | count + 1, window =>
      window.getD 0 0 :: schedule count (window.tail ++ [nextWord window])

/-- The state after a block of sixteen words. -/
def compress (state : State) (block : List UInt32) : State :=
  let mixed := ((schedule 64 block).zip roundConstants).foldl
    (fun current step => round current step.1 step.2) state
  { a := state.a + mixed.a, b := state.b + mixed.b, c := state.c + mixed.c, d := state.d + mixed.d
    e := state.e + mixed.e, f := state.f + mixed.f, g := state.g + mixed.g, h := state.h + mixed.h }

/-- The low `count` bytes of a number, most significant first. -/
def bigEndian : Nat → Nat → List UInt8
  | 0, _ => []
  | count + 1, n => UInt8.ofNat (n / Nat.pow 256 count) :: bigEndian count n

/-- The message, a one bit, zero bits, and the message's length in bits as a 64-bit number: a whole
number of 64-byte blocks. -/
def pad (message : List UInt8) : List UInt8 :=
  let zeros := (119 - message.length % 64) % 64
  message ++ 0x80 :: List.replicate zeros 0 ++ bigEndian 8 (8 * message.length)

/-- Groups of four bytes as words, most significant byte first. -/
def words : List UInt8 → List UInt32
  | x :: y :: z :: w :: rest =>
      ((x.toUInt32 <<< 24) ||| (y.toUInt32 <<< 16) ||| (z.toUInt32 <<< 8) ||| w.toUInt32) ::
        words rest
  | _ => []

/-- The state after `count` blocks of sixteen words. -/
def absorb : Nat → List UInt32 → State → State
  | 0, _, state => state
  | count + 1, message, state => absorb count (message.drop 16) (compress state (message.take 16))

/-- The state that stands for the hash of a message. -/
def hash (message : List UInt8) : State :=
  let padded := words (pad message)
  absorb (padded.length / 16) padded .initial

end Sha256

/-- The digest of a text: the first four bytes of the SHA-256 hash of its UTF-8 encoding. -/
def digest (text : String) : UInt32 :=
  (Sha256.hash text.toUTF8.data.toList).a

end ObjectQuery

import Pppcpd.Foundation.Bytes
import Mathlib.Algebra.Ring.Nat

namespace Pppcpd
namespace Foundation

/-!
# The MD5 digest

The digest function that the daemon takes from a library: 64 rounds over each
block of 64 bytes, in four passes with their own mixing functions.  The model
is stated for any digest function, and this one makes its small runs real.
-/

namespace MD5

/-- The additive constant of each round, `⌊2^32 |sin (round + 1)|⌋`. -/
def constants : List UInt32 :=
  [0xd76aa478, 0xe8c7b756, 0x242070db, 0xc1bdceee, 0xf57c0faf, 0x4787c62a, 0xa8304613, 0xfd469501,
    0x698098d8, 0x8b44f7af, 0xffff5bb1, 0x895cd7be, 0x6b901122, 0xfd987193, 0xa679438e, 0x49b40821,
    0xf61e2562, 0xc040b340, 0x265e5a51, 0xe9b6c7aa, 0xd62f105d, 0x02441453, 0xd8a1e681, 0xe7d3fbc8,
    0x21e1cde6, 0xc33707d6, 0xf4d50d87, 0x455a14ed, 0xa9e3e905, 0xfcefa3f8, 0x676f02d9, 0x8d2a4c8a,
    0xfffa3942, 0x8771f681, 0x6d9d6122, 0xfde5380c, 0xa4beea44, 0x4bdecfa9, 0xf6bb4b60, 0xbebfbc70,
    0x289b7ec6, 0xeaa127fa, 0xd4ef3085, 0x04881d05, 0xd9d4d039, 0xe6db99e5, 0x1fa27cf8, 0xc4ac5665,
    0xf4292244, 0x432aff97, 0xab9423a7, 0xfc93a039, 0x655b59c3, 0x8f0ccc92, 0xffeff47d, 0x85845dd1,
    0x6fa87e4f, 0xfe2ce6e0, 0xa3014314, 0x4e0811a1, 0xf7537e82, 0xbd3af235, 0x2ad7d2bb, 0xeb86d391]

/-- The rotations of the four passes. -/
def shifts : List (List UInt32) :=
  [[7, 12, 17, 22], [5, 9, 14, 20], [4, 11, 16, 23], [6, 10, 15, 21]]

structure State where
  a : UInt32 := 0x67452301
  b : UInt32 := 0xefcdab89
  c : UInt32 := 0x98badcfe
  d : UInt32 := 0x10325476
  deriving DecidableEq, Repr

def rotateLeft (value count : UInt32) : UInt32 :=
  (value <<< count) ||| (value >>> (32 - count))

/-- The mixing function of a pass and the index of the word it reads. -/
def mix (state : State) (round : Nat) : UInt32 × Nat :=
  match round / 16 with
  | 0 => ((state.b &&& state.c) ||| (~~~state.b &&& state.d), round)
  | 1 => ((state.d &&& state.b) ||| (~~~state.d &&& state.c), (5 * round + 1) % 16)
  | 2 => (state.b ^^^ state.c ^^^ state.d, (3 * round + 5) % 16)
  | _ => (state.c ^^^ (state.b ||| ~~~state.d), (7 * round) % 16)

/-- One round, with the round's constant and number. -/
def round (words : List UInt32) (state : State) (entry : UInt32 × Nat) : State :=
  let mixed := mix state entry.2
  let shift := ((shifts.getD (entry.2 / 16) []).getD (entry.2 % 4) 0)
  let sum := state.a + mixed.1 + entry.1 + words.getD mixed.2 0
  { a := state.d, b := state.b + rotateLeft sum shift, c := state.b, d := state.c }

/-- Sixteen words in little-endian order. -/
def wordsOf (block : Bytes) : List UInt32 :=
  (List.range 16).map (fun i =>
    let byte := fun k => (block.getD (4 * i + k) 0).toUInt32
    byte 0 ||| (byte 1 <<< 8) ||| (byte 2 <<< 16) ||| (byte 3 <<< 24))

/-- Mix a block into the state. -/
def compress (state : State) (block : Bytes) : State :=
  let words := wordsOf block
  let mixed := constants.zipIdx.foldl (round words) state
  { a := state.a + mixed.a, b := state.b + mixed.b, c := state.c + mixed.c, d := state.d + mixed.d }

/-- The lowest bytes of a number, least significant first. -/
def littleEndian (width value : Nat) : Bytes :=
  (List.range width).map (fun i => UInt8.ofNat (value / 256 ^ i))

/-- Fill a message up to whole blocks, the last eight bytes with its length in
bits. -/
def pad (message : Bytes) : Bytes :=
  message ++ [0x80] ++ List.replicate ((119 - message.length % 64) % 64) 0 ++
    littleEndian 8 (8 * message.length)

/-- Mix a number of blocks into the state. -/
def blocks (state : State) : Nat -> Bytes -> State
  | 0, _ => state
  | count + 1, bytes => blocks (compress state (bytes.take 64)) count (bytes.drop 64)

def digest (message : Bytes) : Bytes :=
  let padded := pad message
  let final := blocks {} (padded.length / 64) padded
  [final.a, final.b, final.c, final.d].flatMap (fun word => littleEndian 4 word.toNat)

theorem length_digest (message : Bytes) : (digest message).length = 16 := rfl

example : digest (ascii "message digest") =
    [0xf9, 0x6b, 0x69, 0x7d, 0x7c, 0xb7, 0x93, 0x8d, 0x52, 0x5a, 0x2f, 0x31, 0xaa, 0xf1, 0x61,
      0xd0] := by
  decide +kernel

end MD5

end Foundation
end Pppcpd

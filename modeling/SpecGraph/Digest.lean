import SpecGraph.Json.Writer
import SpecGraph.Text.Numeral

/-!
# Digests

The digest of a message of bytes by the Secure Hash Algorithm with 256 bits: the message is padded to
whole blocks of 64 bytes, each block is expanded to a schedule of 64 words, and 64 rounds mix the
schedule into a state of eight words.

The fingerprint of a value is the digest of its canonical text: compact JSON with sorted keys, which is
ASCII, so that every character is one byte.
-/

namespace SpecGraph

namespace Sha256

/-- The round constants: the first 32 bits of the fractional parts of the cube roots of the first 64
primes. -/
def roundConstants : List UInt32 := [
  0x428a2f98, 0x71374491, 0xb5c0fbcf, 0xe9b5dba5, 0x3956c25b, 0x59f111f1, 0x923f82a4, 0xab1c5ed5,
  0xd807aa98, 0x12835b01, 0x243185be, 0x550c7dc3, 0x72be5d74, 0x80deb1fe, 0x9bdc06a7, 0xc19bf174,
  0xe49b69c1, 0xefbe4786, 0x0fc19dc6, 0x240ca1cc, 0x2de92c6f, 0x4a7484aa, 0x5cb0a9dc, 0x76f988da,
  0x983e5152, 0xa831c66d, 0xb00327c8, 0xbf597fc7, 0xc6e00bf3, 0xd5a79147, 0x06ca6351, 0x14292967,
  0x27b70a85, 0x2e1b2138, 0x4d2c6dfc, 0x53380d13, 0x650a7354, 0x766a0abb, 0x81c2c92e, 0x92722c85,
  0xa2bfe8a1, 0xa81a664b, 0xc24b8b70, 0xc76c51a3, 0xd192e819, 0xd6990624, 0xf40e3585, 0x106aa070,
  0x19a4c116, 0x1e376c08, 0x2748774c, 0x34b0bcb5, 0x391c0cb3, 0x4ed8aa4a, 0x5b9cca4f, 0x682e6ff3,
  0x748f82ee, 0x78a5636f, 0x84c87814, 0x8cc70208, 0x90befffa, 0xa4506ceb, 0xbef9a3f7, 0xc67178f2]

/-- The eight words of the state. -/
structure State where
  a : UInt32
  b : UInt32
  c : UInt32
  d : UInt32
  e : UInt32
  f : UInt32
  g : UInt32
  h : UInt32

/-- The state before the first block: the first 32 bits of the fractional parts of the square roots of
the first eight primes. -/
def initial : State :=
  ⟨0x6a09e667, 0xbb67ae85, 0x3c6ef372, 0xa54ff53a, 0x510e527f, 0x9b05688c, 0x1f83d9ab, 0x5be0cd19⟩

/-- A word rotated to the right. -/
def rotate (word : UInt32) (places : UInt32) : UInt32 :=
  (word >>> places) ||| (word <<< (32 - places))

/-- The number of zero bytes between the closing bit and the length. -/
def zeroCount (size : Nat) : Nat := (119 - size % 64) % 64

/-- The length of a message in bits as eight bytes. -/
def lengthBytes (size : Nat) : List UInt8 :=
  let bits := 8 * size
  [72057594037927936, 281474976710656, 1099511627776, 4294967296, 16777216, 65536, 256, 1].map
    fun unit => UInt8.ofNat (bits / unit % 256)

/-- A message with its closing bit, zeros and length. -/
def padded (message : List UInt8) : List UInt8 :=
  message ++ 0x80 :: (List.replicate (zeroCount message.length) 0 ++ lengthBytes message.length)

/-- Bytes as words of four, the first byte highest. -/
def words : List UInt8 → List UInt32
  | first :: second :: third :: fourth :: rest =>
      ((first.toUInt32 <<< 24) ||| (second.toUInt32 <<< 16) ||| (third.toUInt32 <<< 8) |||
        fourth.toUInt32) :: words rest
  | _ => []

/-- The schedule of a block, newest word first. -/
def extend : (count : Nat) → List UInt32 → List UInt32
  | 0, schedule => schedule
  | count + 1, schedule =>
      let at_ (back : Nat) : UInt32 := schedule.getD (back - 1) 0
      let early := at_ 15
      let late := at_ 2
      let small := rotate early 7 ^^^ rotate early 18 ^^^ (early >>> 3)
      let large := rotate late 17 ^^^ rotate late 19 ^^^ (late >>> 10)
      extend count ((at_ 16 + small + at_ 7 + large) :: schedule)

/-- One round with a schedule word and a round constant. -/
def round (state : State) (word constant : UInt32) : State :=
  let mix := rotate state.e 6 ^^^ rotate state.e 11 ^^^ rotate state.e 25
  let choice := (state.e &&& state.f) ^^^ ((~~~ state.e) &&& state.g)
  let first := state.h + mix + choice + constant + word
  let spread := rotate state.a 2 ^^^ rotate state.a 13 ^^^ rotate state.a 22
  let majority := (state.a &&& state.b) ^^^ (state.a &&& state.c) ^^^ (state.b &&& state.c)
  ⟨first + (spread + majority), state.a, state.b, state.c, state.d + first, state.e, state.f,
    state.g⟩

/-- The state after a block of sixteen words. -/
def compress (state : State) (block : List UInt32) : State :=
  let schedule := (extend 48 block.reverse).reverse
  let mixed := (schedule.zip roundConstants).foldl (fun state pair => round state pair.1 pair.2) state
  ⟨state.a + mixed.a, state.b + mixed.b, state.c + mixed.c, state.d + mixed.d, state.e + mixed.e,
    state.f + mixed.f, state.g + mixed.g, state.h + mixed.h⟩

/-- The state after all whole blocks of a list of words. -/
def compressAll : (fuel : Nat) → State → List UInt32 → State
  | 0, state, _ => state
  | fuel + 1, state, message =>
      if message.isEmpty then state
      else compressAll fuel (compress state (message.take 16)) (message.drop 16)

/-- The digest of a message as eight words. -/
def digest (message : List UInt8) : State :=
  let blocks := words (padded message)
  compressAll blocks.length initial blocks

/-- The digest of a message in hexadecimal digits. -/
def hexDigest (message : List UInt8) : String :=
  let state := digest message
  String.ofList ([state.a, state.b, state.c, state.d, state.e, state.f, state.g, state.h].flatMap
    fun word => Text.hexadecimal Text.lowerHexDigit 8 word.toNat)

end Sha256

namespace Data

/-- The canonical text of a value. -/
def canonical (value : Data) : Except Fault (List Char) := Json.writeCharacters .compact value

/-- The fingerprint of a value, marked with the name of its digest. -/
def fingerprint (value : Data) : Except Fault String := do
  let text ← value.canonical
  return "sha256:" ++ Sha256.hexDigest (text.map fun character => UInt8.ofNat character.toNat)

end Data

end SpecGraph

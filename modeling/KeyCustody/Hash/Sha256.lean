import KeyCustody.ByteString

/-!
# SHA-256

A digest of 32 bytes: the message is padded to whole blocks of 64 bytes, and each block is mixed into a
chaining value of eight words by 64 rounds. Root key digests are SHA-256 digests, and the keyed hash of
the key derivation is built from the same compression.
-/

namespace KeyCustody

namespace Sha256

/-- The chaining value: eight words. -/
structure Chain where
  a : UInt32
  b : UInt32
  c : UInt32
  d : UInt32
  e : UInt32
  f : UInt32
  g : UInt32
  h : UInt32
deriving DecidableEq, Inhabited

/-- The chaining value before the first block. -/
def Chain.initial : Chain :=
  ⟨0x6a09e667, 0xbb67ae85, 0x3c6ef372, 0xa54ff53a, 0x510e527f, 0x9b05688c, 0x1f83d9ab, 0x5be0cd19⟩

/-- The sum of two chaining values, word by word. -/
def Chain.add (left right : Chain) : Chain :=
  ⟨left.a + right.a, left.b + right.b, left.c + right.c, left.d + right.d,
    left.e + right.e, left.f + right.f, left.g + right.g, left.h + right.h⟩

/-- The exclusive or of two chaining values, word by word. -/
def Chain.xor (left right : Chain) : Chain :=
  ⟨left.a ^^^ right.a, left.b ^^^ right.b, left.c ^^^ right.c, left.d ^^^ right.d,
    left.e ^^^ right.e, left.f ^^^ right.f, left.g ^^^ right.g, left.h ^^^ right.h⟩

/-- The words of a chaining value in order. -/
def Chain.words (chain : Chain) : List UInt32 :=
  [chain.a, chain.b, chain.c, chain.d, chain.e, chain.f, chain.g, chain.h]

/-- The 32 bytes of a chaining value, each word most significant byte first. -/
def Chain.toBytes (chain : Chain) : ByteString :=
  chain.words.flatMap ByteString.ofUInt32BE

@[simp]
theorem Chain.length_toBytes (chain : Chain) : chain.toBytes.length = 32 := by
  simp [toBytes, words, ByteString.ofUInt32BE]

/-- The constants of the 64 rounds. -/
def roundConstants : Array UInt32 := #[
  0x428a2f98, 0x71374491, 0xb5c0fbcf, 0xe9b5dba5, 0x3956c25b, 0x59f111f1, 0x923f82a4, 0xab1c5ed5,
  0xd807aa98, 0x12835b01, 0x243185be, 0x550c7dc3, 0x72be5d74, 0x80deb1fe, 0x9bdc06a7, 0xc19bf174,
  0xe49b69c1, 0xefbe4786, 0x0fc19dc6, 0x240ca1cc, 0x2de92c6f, 0x4a7484aa, 0x5cb0a9dc, 0x76f988da,
  0x983e5152, 0xa831c66d, 0xb00327c8, 0xbf597fc7, 0xc6e00bf3, 0xd5a79147, 0x06ca6351, 0x14292967,
  0x27b70a85, 0x2e1b2138, 0x4d2c6dfc, 0x53380d13, 0x650a7354, 0x766a0abb, 0x81c2c92e, 0x92722c85,
  0xa2bfe8a1, 0xa81a664b, 0xc24b8b70, 0xc76c51a3, 0xd192e819, 0xd6990624, 0xf40e3585, 0x106aa070,
  0x19a4c116, 0x1e376c08, 0x2748774c, 0x34b0bcb5, 0x391c0cb3, 0x4ed8aa4a, 0x5b9cca4f, 0x682e6ff3,
  0x748f82ee, 0x78a5636f, 0x84c87814, 0x8cc70208, 0x90befffa, 0xa4506ceb, 0xbef9a3f7, 0xc67178f2]

/-- A word rotated to the right. -/
@[inline]
def rotateRight (word count : UInt32) : UInt32 :=
  (word >>> count) ||| (word <<< (32 - count))

/-- Appends `count` words of the message schedule to the words so far, each from the words 16, 15, 7
and 2 places before it. -/
def extendSchedule : Nat → Array UInt32 → Array UInt32
  | 0, words => words
  | count + 1, words =>
    let next := words.size
    let word15 := words.getD (next - 15) 0
    let word2 := words.getD (next - 2) 0
    let small15 := rotateRight word15 7 ^^^ rotateRight word15 18 ^^^ (word15 >>> 3)
    let small2 := rotateRight word2 17 ^^^ rotateRight word2 19 ^^^ (word2 >>> 10)
    extendSchedule count
      (words.push (words.getD (next - 16) 0 + small15 + words.getD (next - 7) 0 + small2))

/-- The last `remaining` rounds over the words of the schedule. -/
def rounds (schedule : Array UInt32) :
    Nat → UInt32 → UInt32 → UInt32 → UInt32 → UInt32 → UInt32 → UInt32 → UInt32 → Chain
  | 0, a, b, c, d, e, f, g, h => ⟨a, b, c, d, e, f, g, h⟩
  | remaining + 1, a, b, c, d, e, f, g, h =>
    let position := 63 - remaining
    let bigE := rotateRight e 6 ^^^ rotateRight e 11 ^^^ rotateRight e 25
    let choice := (e &&& f) ^^^ (~~~e &&& g)
    let first := h + bigE + choice + roundConstants.getD position 0 + schedule.getD position 0
    let bigA := rotateRight a 2 ^^^ rotateRight a 13 ^^^ rotateRight a 22
    let majority := (a &&& b) ^^^ (a &&& c) ^^^ (b &&& c)
    rounds schedule remaining (first + (bigA + majority)) a b c (d + first) e f g

/-- Mixes one block of sixteen words into the chaining value. -/
def compress (chain : Chain) (block : Array UInt32) : Chain :=
  let schedule := extendSchedule 48 block
  chain.add (rounds schedule 64 chain.a chain.b chain.c chain.d chain.e chain.f chain.g chain.h)

/-- Appends the first `count` words of a byte string, most significant byte first; a word that the
bytes do not fill is left out. -/
def pushWords : Nat → ByteString → Array UInt32 → Array UInt32
  | 0, _, words => words
  | count + 1, b0 :: b1 :: b2 :: b3 :: rest, words =>
    let word := (b0.toUInt32 <<< 24) ||| (b1.toUInt32 <<< 16) ||| (b2.toUInt32 <<< 8) ||| b3.toUInt32
    pushWords count rest (words.push word)
  | _ + 1, _, words => words

/-- Mixes the first `count` blocks of a byte string into the chaining value. -/
def absorb : Nat → Chain → ByteString → Chain
  | 0, chain, _ => chain
  | count + 1, chain, bytes =>
    absorb count (compress chain (pushWords 16 bytes (Array.emptyWithCapacity 64))) (bytes.drop 64)

/-- The padding after a message: a one bit, zeros up to eight bytes before the end of a block, and the
length in bits. -/
def padding (length : Nat) : ByteString :=
  0x80 :: (List.replicate ((119 - length % 64) % 64) 0 ++ ByteString.bigEndian 8 (8 * length))

/-- The chaining value after `before` bytes already absorbed and the rest of the message. -/
def finish (before : Nat) (chain : Chain) (rest : ByteString) : Chain :=
  let padded := rest ++ padding (before + rest.length)
  absorb (padded.length / 64) chain padded

/-- The SHA-256 digest of a byte string. -/
def digest (message : ByteString) : ByteString :=
  (finish 0 Chain.initial message).toBytes

@[simp]
theorem length_digest (message : ByteString) : (digest message).length = 32 := by
  simp [digest]

end Sha256

end KeyCustody

import KeyCustody.ByteString

/-!
# BLAKE2b

The unkeyed hash with digests of one to 64 bytes. The message is cut into blocks of 128 bytes, the last
one filled with zeros, and each is mixed by twelve rounds into a chaining value of eight words.
-/

namespace KeyCustody

namespace Blake2b

/-- The chaining value before the parameters are mixed in. -/
def initial : Array UInt64 := #[
  0x6a09e667f3bcc908, 0xbb67ae8584caa73b, 0x3c6ef372fe94f82b, 0xa54ff53a5f1d36f1,
  0x510e527fade682d1, 0x9b05688c2b3e6c1f, 0x1f83d9abfb41bd6b, 0x5be0cd19137e2179]

/-- The order in which the words of a block enter each of the twelve rounds. -/
def schedules : List (List Nat) := [
  [0, 1, 2, 3, 4, 5, 6, 7, 8, 9, 10, 11, 12, 13, 14, 15],
  [14, 10, 4, 8, 9, 15, 13, 6, 1, 12, 0, 2, 11, 7, 5, 3],
  [11, 8, 12, 0, 5, 2, 15, 13, 10, 14, 3, 6, 7, 1, 9, 4],
  [7, 9, 3, 1, 13, 12, 11, 14, 2, 6, 5, 10, 4, 0, 15, 8],
  [9, 0, 5, 7, 2, 4, 10, 15, 14, 1, 11, 12, 6, 8, 3, 13],
  [2, 12, 6, 10, 0, 11, 8, 3, 4, 13, 7, 5, 15, 14, 1, 9],
  [12, 5, 1, 15, 14, 13, 4, 10, 0, 7, 6, 3, 9, 2, 8, 11],
  [13, 11, 7, 14, 12, 1, 3, 9, 5, 0, 15, 4, 8, 6, 2, 10],
  [6, 15, 14, 9, 11, 3, 0, 8, 12, 2, 13, 7, 1, 4, 10, 5],
  [10, 2, 8, 4, 7, 6, 1, 5, 15, 11, 9, 14, 3, 12, 13, 0],
  [0, 1, 2, 3, 4, 5, 6, 7, 8, 9, 10, 11, 12, 13, 14, 15],
  [14, 10, 4, 8, 9, 15, 13, 6, 1, 12, 0, 2, 11, 7, 5, 3]]

/-- The four places that each of the eight steps of a round mixes: columns, then diagonals. -/
def places : List (Nat × Nat × Nat × Nat) := [
  (0, 4, 8, 12), (1, 5, 9, 13), (2, 6, 10, 14), (3, 7, 11, 15),
  (0, 5, 10, 15), (1, 6, 11, 12), (2, 7, 8, 13), (3, 4, 9, 14)]

/-- A word rotated to the right. -/
@[inline]
def rotateRight (word count : UInt64) : UInt64 :=
  (word >>> count) ||| (word <<< (64 - count))

/-- One step: mixes four words of the state with two words of the block. -/
def mix (state : Array UInt64) (place : Nat × Nat × Nat × Nat) (x y : UInt64) : Array UInt64 :=
  let (placeA, placeB, placeC, placeD) := place
  let a := state.getD placeA 0
  let b := state.getD placeB 0
  let c := state.getD placeC 0
  let d := state.getD placeD 0
  let a := a + b + x
  let d := rotateRight (d ^^^ a) 32
  let c := c + d
  let b := rotateRight (b ^^^ c) 24
  let a := a + b + y
  let d := rotateRight (d ^^^ a) 16
  let c := c + d
  let b := rotateRight (b ^^^ c) 63
  (((state.setIfInBounds placeA a).setIfInBounds placeB b).setIfInBounds placeC c).setIfInBounds
    placeD d

/-- The eight steps of a round, which take the words of the block two by two. -/
def round (block : Array UInt64) :
    List (Nat × Nat × Nat × Nat) → List Nat → Array UInt64 → Array UInt64
  | place :: places, first :: second :: order, state =>
    round block places order (mix state place (block.getD first 0) (block.getD second 0))
  | _, _, state => state

/-- Mixes one block into the chaining value, given how many bytes were taken so far and whether the
block is the last. -/
def compress (chain : Array UInt64) (block : Array UInt64) (taken : Nat) (isLast : Bool) :
    Array UInt64 :=
  let start := (chain ++ initial).mapIdx fun place word =>
    if place = 12 then word ^^^ taken.toUInt64
    else if place = 13 then word ^^^ (taken >>> 64).toUInt64
    else if place = 14 && isLast then ~~~word
    else word
  let state := schedules.foldl (fun state order => round block places order state) start
  chain.mapIdx fun place word => word ^^^ state.getD place 0 ^^^ state.getD (place + 8) 0

/-- The sixteen words of a block of up to 128 bytes, filled with zeros. -/
def blockWords (bytes : ByteString) : Array UInt64 :=
  ((List.range 16).map fun position => ByteString.toUInt64LE (bytes.drop (8 * position))).toArray

/-- Absorbs a message of `blocks + 1` blocks, of which `taken` bytes came before. -/
def absorb : Nat → Array UInt64 → Nat → ByteString → Array UInt64
  | 0, chain, taken, bytes =>
    compress chain (blockWords bytes) (taken + bytes.length) true
  | blocks + 1, chain, taken, bytes =>
    absorb blocks (compress chain (blockWords (bytes.take 128)) (taken + 128) false) (taken + 128)
      (bytes.drop 128)

/-- The digest of `size` bytes of a message. -/
def digest (size : Nat) (message : ByteString) : ByteString :=
  let chain := initial.mapIdx fun place word =>
    if place = 0 then word ^^^ 0x01010000 ^^^ size.toUInt64 else word
  let words := absorb ((message.length - 1) / 128) chain 0 message
  (words.toList.flatMap ByteString.ofUInt64LE).take size

end Blake2b

end KeyCustody

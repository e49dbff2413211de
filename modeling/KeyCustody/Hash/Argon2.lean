import KeyCustody.Hash.Blake2b

/-!
# Argon2

The memory-hard password hash in its three variants and both versions. The memory is an array of blocks
of 1024 bytes, `lanes` rows of equal length cut into four slices. Each block is made from the one
before it in its lane and from an earlier block, which the data-dependent variant picks by the contents
of the memory and the data-independent one by a counter.
-/

namespace KeyCustody

namespace Argon2

/-- How the earlier block is picked. -/
inductive Variant where
  /-- By the contents of the memory. -/
  | d
  /-- By a counter. -/
  | i
  /-- By a counter in the first half of the first pass, and by the contents afterwards. -/
  | id
deriving DecidableEq, Repr

/-- The number by which the hash identifies the variant. -/
def Variant.number : Variant → Nat
  | .d => 0
  | .i => 1
  | .id => 2

/-- The version of the algorithm. -/
inductive Version where
  /-- Later passes replace blocks. -/
  | v16
  /-- Later passes combine new blocks with the old ones by exclusive or. -/
  | v19
deriving DecidableEq, Repr

/-- The number of the version. -/
def Version.number : Version → Nat
  | .v16 => 16
  | .v19 => 19

/-- What the cost and the outcome of a hash depend on, besides the password and the salt. -/
structure Parameters where
  variant : Variant
  version : Version
  /-- The memory in blocks of 1024 bytes, before it is rounded down to whole slices. -/
  memory : Nat
  passes : Nat
  lanes : Nat
  size : Nat
  data : ByteString

/-- Sixteen bytes of a block, as two words. -/
structure Register where
  low : UInt64
  high : UInt64
deriving Inhabited

/-- The exclusive or of two registers. -/
def Register.xor (left right : Register) : Register :=
  ⟨left.low ^^^ right.low, left.high ^^^ right.high⟩

/-- A block: eight rows of eight registers. -/
abbrev Block := Vector (Vector Register 8) 8

namespace Block

/-- The block of zeros. -/
def zero : Block :=
  Vector.replicate 8 (Vector.replicate 8 ⟨0, 0⟩)

/-- The exclusive or of two blocks. -/
def xor (left right : Block) : Block :=
  Vector.zipWith (Vector.zipWith Register.xor) left right

/-- The block with rows and columns exchanged. -/
def transpose (block : Block) : Block :=
  Vector.ofFn fun column => Vector.ofFn fun row => block[row][column]

/-- The word at a position below 128. -/
def word (block : Block) (position : Nat) : UInt64 :=
  let register := (block.toArray.getD (position / 16) (Vector.replicate 8 ⟨0, 0⟩)).toArray.getD
    (position / 2 % 8) ⟨0, 0⟩
  if position % 2 = 0 then register.low else register.high

/-- The block of the given words, the rest filled with zeros. -/
def ofWords (words : Array UInt64) : Block :=
  Vector.ofFn fun row => Vector.ofFn fun column =>
    let position := 16 * row.val + 2 * column.val
    ⟨words.getD position 0, words.getD (position + 1) 0⟩

/-- The block of 1024 bytes, least significant byte first in each word. -/
def ofBytes (bytes : ByteString) : Block :=
  ofWords ((List.range 128).map fun position =>
    ByteString.toUInt64LE (bytes.drop (8 * position))).toArray

/-- The 1024 bytes of a block. -/
def toBytes (block : Block) : ByteString :=
  (List.range 128).flatMap fun position => ByteString.ofUInt64LE (block.word position)

end Block

/-- Four words that are mixed together. -/
structure Quad where
  a : UInt64
  b : UInt64
  c : UInt64
  d : UInt64

/-- The sum of two words and of twice the product of their lower halves. -/
@[inline]
def mulAdd (left right : UInt64) : UInt64 :=
  left + right + 2 * ((left &&& 0xFFFFFFFF) * (right &&& 0xFFFFFFFF))

/-- Mixes four words. -/
@[inline]
def mixQuad (a b c d : UInt64) : Quad :=
  let a := mulAdd a b
  let d := Blake2b.rotateRight (d ^^^ a) 32
  let c := mulAdd c d
  let b := Blake2b.rotateRight (b ^^^ c) 24
  let a := mulAdd a b
  let d := Blake2b.rotateRight (d ^^^ a) 16
  let c := mulAdd c d
  let b := Blake2b.rotateRight (b ^^^ c) 63
  ⟨a, b, c, d⟩

/-- Mixes the sixteen words of eight registers: the columns of the square that they form, then its
diagonals. -/
def mixRegisters (row : Vector Register 8) : Vector Register 8 :=
  let column0 := mixQuad row[0].low row[2].low row[4].low row[6].low
  let column1 := mixQuad row[0].high row[2].high row[4].high row[6].high
  let column2 := mixQuad row[1].low row[3].low row[5].low row[7].low
  let column3 := mixQuad row[1].high row[3].high row[5].high row[7].high
  let diagonal0 := mixQuad column0.a column1.b column2.c column3.d
  let diagonal1 := mixQuad column1.a column2.b column3.c column0.d
  let diagonal2 := mixQuad column2.a column3.b column0.c column1.d
  let diagonal3 := mixQuad column3.a column0.b column1.c column2.d
  #v[⟨diagonal0.a, diagonal1.a⟩, ⟨diagonal2.a, diagonal3.a⟩,
    ⟨diagonal3.b, diagonal0.b⟩, ⟨diagonal1.b, diagonal2.b⟩,
    ⟨diagonal2.c, diagonal3.c⟩, ⟨diagonal0.c, diagonal1.c⟩,
    ⟨diagonal1.d, diagonal2.d⟩, ⟨diagonal3.d, diagonal0.d⟩]

/-- Makes a block from two: their exclusive or, mixed by rows and then by columns, and combined with
itself unmixed. -/
def compress (left right : Block) : Block :=
  let start := left.xor right
  let byRows : Block := start.map mixRegisters
  let mixed : Block := byRows.transpose.map mixRegisters
  start.xor mixed.transpose

/-- A hash of any size: short ones by one digest, long ones by a chain of digests of which each but
the last gives its first half. -/
def stretch (size : Nat) (message : ByteString) : ByteString :=
  let labelled := ByteString.littleEndian 4 size ++ message
  if size ≤ 64 then Blake2b.digest size labelled
  else
    let chained := (size + 31) / 32 - 2
    let first := Blake2b.digest 64 labelled
    let halves := (List.range (chained - 1)).foldl
      (fun (bytes, last) _ =>
        let next := Blake2b.digest 64 last
        (bytes ++ next.take 32, next))
      (first.take 32, first)
    halves.1 ++ Blake2b.digest (size - 32 * chained) halves.2

/-- The number of slices of a lane. -/
def sliceCount : Nat := 4

/-- The number of blocks of a lane within one slice. -/
def Parameters.segment (parameters : Parameters) : Nat :=
  parameters.memory / (parameters.lanes * sliceCount)

/-- The number of blocks of a lane. -/
def Parameters.laneLength (parameters : Parameters) : Nat :=
  parameters.segment * sliceCount

/-- A byte string after its length. -/
def lengthed (bytes : ByteString) : ByteString :=
  ByteString.littleEndian 4 bytes.length ++ bytes

/-- The digest of all inputs from which the memory is filled. -/
def seed (parameters : Parameters) (password salt : ByteString) : ByteString :=
  let number := ByteString.littleEndian 4
  Blake2b.digest 64
    (number parameters.lanes ++ number parameters.size ++ number parameters.memory ++
      number parameters.passes ++ number parameters.version.number ++
      number parameters.variant.number ++ lengthed password ++ lengthed salt ++ lengthed [] ++
      lengthed parameters.data)

/-- The place in the memory of one block of a segment. -/
structure Place where
  pass : Nat
  slice : Nat
  lane : Nat
  index : Nat

/-- Whether the earlier block is picked by a counter. -/
def Place.byCounter (place : Place) (variant : Variant) : Bool :=
  match variant with
  | .d => false
  | .i => true
  | .id => place.pass == 0 && place.slice < 2

/-- The block of 128 picks with the given number, counted from one, for the segment of a place. -/
def picks (parameters : Parameters) (place : Place) (number : Nat) : Block :=
  let input := Block.ofWords #[place.pass.toUInt64, place.lane.toUInt64, place.slice.toUInt64,
    (parameters.lanes * parameters.laneLength).toUInt64, parameters.passes.toUInt64,
    parameters.variant.number.toUInt64, number.toUInt64]
  compress Block.zero (compress Block.zero input)

/-- The number of earlier blocks among which a pick chooses. -/
def Place.candidates (place : Place) (parameters : Parameters) (ownLane : Bool) : Nat :=
  let finished :=
    if place.pass = 0 then place.slice * parameters.segment
    else parameters.laneLength - parameters.segment
  if ownLane then finished + place.index - 1
  else if place.index = 0 then finished - 1
  else finished

/-- The number of values of half a word. -/
def halfWordCount : Nat := 0x100000000

/-- The place in the memory that a random word picks for a place: its upper half picks the lane, its
lower half a block, recent ones more often. -/
def Place.reference (place : Place) (parameters : Parameters) (random : UInt64) : Nat :=
  let lower := random.toNat % halfWordCount
  let lane :=
    if place.pass = 0 ∧ place.slice = 0 then place.lane
    else random.toNat / halfWordCount % parameters.lanes
  let candidates := place.candidates parameters (lane == place.lane)
  let distance := candidates * (lower * lower / halfWordCount) / halfWordCount
  let start :=
    if place.pass = 0 then 0 else (place.slice + 1) % sliceCount * parameters.segment
  lane * parameters.laneLength + (start + (candidates - 1 - distance)) % parameters.laneLength

/-- What is carried along a segment: the memory, and the current picks where they come from a counter. -/
structure Filling where
  /-- The blocks of all lanes, one lane after the other. -/
  memory : Array Block
  picks : Block

/-- Fills one block of the memory. -/
def fillBlock (parameters : Parameters) (place : Place) (filling : Filling) : Filling :=
  let column := place.slice * parameters.segment + place.index
  let laneStart := place.lane * parameters.laneLength
  let current := laneStart + column
  let before := laneStart + (column + parameters.laneLength - 1) % parameters.laneLength
  let previous := filling.memory.getD before Block.zero
  let byCounter := place.byCounter parameters.variant
  let picks :=
    if byCounter ∧ (place.index % 128 = 0 ∨ (place.pass = 0 ∧ place.slice = 0 ∧ place.index = 2)) then
      picks parameters place (place.index / 128 + 1)
    else filling.picks
  let random := if byCounter then picks.word (place.index % 128) else previous.word 0
  let reference := filling.memory.getD (place.reference parameters random) Block.zero
  let fresh := compress previous reference
  let block :=
    if place.pass = 0 ∨ parameters.version = .v16 then fresh
    else fresh.xor (filling.memory.getD current Block.zero)
  ⟨filling.memory.setIfInBounds current block, picks⟩

/-- Fills the part of one lane within one slice. The first two blocks of a lane come from the seed. -/
def fillSegment (parameters : Parameters) (pass slice : Nat) (memory : Array Block) (lane : Nat) :
    Array Block :=
  let done := if pass = 0 ∧ slice = 0 then 2 else 0
  ((List.range (parameters.segment - done)).foldl
    (fun filling offset => fillBlock parameters ⟨pass, slice, lane, done + offset⟩ filling)
    ⟨memory, Block.zero⟩).memory

/-- The memory before the first pass: the first two blocks of every lane are stretched from the seed. -/
def startMemory (parameters : Parameters) (password salt : ByteString) : Array Block :=
  let digest := seed parameters password salt
  (List.range parameters.lanes).foldl
    (fun memory lane =>
      let block (column : Nat) := Block.ofBytes
        (stretch 1024
          (digest ++ ByteString.littleEndian 4 column ++ ByteString.littleEndian 4 lane))
      (memory.setIfInBounds (lane * parameters.laneLength) (block 0)).setIfInBounds
        (lane * parameters.laneLength + 1) (block 1))
    (Array.replicate (parameters.lanes * parameters.laneLength) Block.zero)

/-- One pass over the memory, slice by slice and within a slice lane by lane. -/
def fillPass (parameters : Parameters) (memory : Array Block) (pass : Nat) : Array Block :=
  (List.range sliceCount).foldl
    (fun memory slice =>
      (List.range parameters.lanes).foldl (fillSegment parameters pass slice) memory)
    memory

/-- The hash of a password under a salt. -/
def hash (parameters : Parameters) (password salt : ByteString) : ByteString :=
  let memory :=
    (List.range parameters.passes).foldl (fillPass parameters) (startMemory parameters password salt)
  let lastColumn := (List.range parameters.lanes).foldl
    (fun block lane =>
      block.xor (memory.getD ((lane + 1) * parameters.laneLength - 1) Block.zero))
    Block.zero
  stretch parameters.size lastColumn.toBytes

end Argon2

end KeyCustody

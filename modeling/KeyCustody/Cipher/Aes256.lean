import KeyCustody.ByteString
import KeyCustody.Field256

/-!
# AES with 256-bit keys

The block cipher, in the encrypting direction only, which is all that counter mode needs. A state is
four columns of four bytes. The substitution is inversion in the field of 256 elements followed by an
affine map, and a round substitutes, rotates the rows, multiplies the columns and adds a round key; the
first three are read off one table.
-/

namespace KeyCustody

namespace Aes256

/-- A block of sixteen bytes as four columns, the first byte of each in its highest bits. -/
structure State where
  c0 : UInt32
  c1 : UInt32
  c2 : UInt32
  c3 : UInt32
deriving DecidableEq, Inhabited

/-- The sixteen bytes of a state. -/
def State.toBytes (state : State) : ByteString :=
  [state.c0, state.c1, state.c2, state.c3].flatMap ByteString.ofUInt32BE

@[simp]
theorem State.length_toBytes (state : State) : state.toBytes.length = 16 := by
  simp [toBytes, ByteString.ofUInt32BE]

/-- The substitution of a byte. -/
def substitute (byte : UInt8) : UInt8 :=
  let inverse := (Field256.inv ⟨byte⟩).byte
  let rotated (count : UInt8) := (inverse <<< count) ||| (inverse >>> (8 - count))
  inverse ^^^ rotated 1 ^^^ rotated 2 ^^^ rotated 3 ^^^ rotated 4 ^^^ 0x63

/-- A word of four bytes, first byte highest. -/
def wordOf (b0 b1 b2 b3 : UInt8) : UInt32 :=
  (b0.toUInt32 <<< 24) ||| (b1.toUInt32 <<< 16) ||| (b2.toUInt32 <<< 8) ||| b3.toUInt32

/-- The substitutions of all bytes. -/
def substitutions : Array UInt32 :=
  ((List.range 256).map fun byte => (substitute byte.toUInt8).toUInt32).toArray

/-- For each byte what it adds to a column when it stands in the first row: its substitution times
`2, 1, 1, 3`. -/
def columnTable : Array UInt32 :=
  ((List.range 256).map fun byte =>
    let substituted : Field256 := ⟨substitute byte.toUInt8⟩
    wordOf (⟨2⟩ * substituted).byte substituted.byte substituted.byte
      (⟨3⟩ * substituted).byte).toArray

/-- A word rotated to the right. -/
@[inline]
def rotateRight (word count : UInt32) : UInt32 :=
  (word >>> count) ||| (word <<< (32 - count))

/-- The substitution of each byte of a word. -/
def substituteWord (word : UInt32) : UInt32 :=
  let at_ (shift : UInt32) := substitutions.getD ((word >>> shift) &&& 0xFF).toNat 0 <<< shift
  at_ 24 ||| at_ 16 ||| at_ 8 ||| at_ 0

/-- Appends `count` words of the key schedule to the words so far. -/
def extendSchedule : Nat → Array UInt32 → Field256 → Array UInt32
  | 0, words, _ => words
  | count + 1, words, constant =>
    let position := words.size
    let last := words.getD (position - 1) 0
    let early := words.getD (position - 8) 0
    if position % 8 = 0 then
      let turned := substituteWord (rotateRight last 24) ^^^ (constant.byte.toUInt32 <<< 24)
      extendSchedule count (words.push (early ^^^ turned)) (⟨2⟩ * constant)
    else if position % 8 = 4 then
      extendSchedule count (words.push (early ^^^ substituteWord last)) constant
    else
      extendSchedule count (words.push (early ^^^ last)) constant

/-- The words of a byte string, first byte highest; bytes that fill no word are left out. -/
def wordsOf : ByteString → List UInt32
  | b0 :: b1 :: b2 :: b3 :: rest => wordOf b0 b1 b2 b3 :: wordsOf rest
  | _ => []

/-- The sixty words of the key schedule. -/
def schedule (key : ByteString) : Array UInt32 :=
  extendSchedule 52 (wordsOf key).toArray 1

/-- One column after a full round, from the columns that give its four rows. -/
@[inline]
def roundColumn (first second third fourth roundKey : UInt32) : UInt32 :=
  columnTable.getD (first >>> 24).toNat 0 ^^^
    rotateRight (columnTable.getD ((second >>> 16) &&& 0xFF).toNat 0) 8 ^^^
    rotateRight (columnTable.getD ((third >>> 8) &&& 0xFF).toNat 0) 16 ^^^
    rotateRight (columnTable.getD (fourth &&& 0xFF).toNat 0) 24 ^^^ roundKey

/-- One column after the last round, which does not multiply. -/
@[inline]
def lastColumn (first second third fourth roundKey : UInt32) : UInt32 :=
  substituteWord ((first &&& 0xFF000000) ||| (second &&& 0xFF0000) ||| (third &&& 0xFF00) |||
    (fourth &&& 0xFF)) ^^^ roundKey

/-- The full rounds that are left and the last round; the round keys used so far are the first
`position` words of the schedule. -/
def rounds (words : Array UInt32) : Nat → Nat → UInt32 → UInt32 → UInt32 → UInt32 → State
  | 0, position, c0, c1, c2, c3 =>
    let roundKey (column : Nat) := words.getD (position + column) 0
    ⟨lastColumn c0 c1 c2 c3 (roundKey 0), lastColumn c1 c2 c3 c0 (roundKey 1),
      lastColumn c2 c3 c0 c1 (roundKey 2), lastColumn c3 c0 c1 c2 (roundKey 3)⟩
  | remaining + 1, position, c0, c1, c2, c3 =>
    let roundKey (column : Nat) := words.getD (position + column) 0
    rounds words remaining (position + 4)
      (roundColumn c0 c1 c2 c3 (roundKey 0)) (roundColumn c1 c2 c3 c0 (roundKey 1))
      (roundColumn c2 c3 c0 c1 (roundKey 2)) (roundColumn c3 c0 c1 c2 (roundKey 3))

/-- Encrypts one block under a key schedule. -/
def encrypt (words : Array UInt32) (block : State) : State :=
  rounds words 13 4 (block.c0 ^^^ words.getD 0 0) (block.c1 ^^^ words.getD 1 0)
    (block.c2 ^^^ words.getD 2 0) (block.c3 ^^^ words.getD 3 0)

end Aes256

end KeyCustody

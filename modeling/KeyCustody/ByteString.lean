/-!
# Byte strings

Keys, key pieces, digests, salts and payloads are byte strings. They are lists, so that the laws of
`List` apply to them directly. The big-endian and little-endian readings of words, the bytewise
exclusive or and the UTF-8 bytes of a text are the operations that the formats of this library share.
-/

namespace KeyCustody

/-- A byte string, first byte first. -/
abbrev ByteString := List UInt8

namespace ByteString

/-- The UTF-8 bytes of a text. -/
def ofText (text : String) : ByteString :=
  text.toUTF8.data.toList

/-- The bytewise exclusive or, as long as the shorter of the two. -/
def xor (left right : ByteString) : ByteString :=
  List.zipWith (· ^^^ ·) left right

/-- The `width` low bytes of a number, most significant first. -/
def bigEndian (width value : Nat) : ByteString :=
  (List.range width).map fun position => (value >>> (8 * (width - 1 - position))).toUInt8

/-- The `width` low bytes of a number, least significant first. -/
def littleEndian (width value : Nat) : ByteString :=
  (List.range width).map fun position => (value >>> (8 * position)).toUInt8

/-- The number whose base-256 digits, most significant first, are the bytes. -/
def toNat (bytes : ByteString) : Nat :=
  bytes.foldl (fun value byte => value * 256 + byte.toNat) 0

/-- The word whose bytes, least significant first, start the byte string. -/
def toUInt64LE (bytes : ByteString) : UInt64 :=
  (bytes.take 8).foldr (fun byte word => (word <<< 8) ||| byte.toUInt64) 0

/-- The bytes of a word, least significant first. -/
def ofUInt64LE (word : UInt64) : ByteString :=
  [word.toUInt8, (word >>> 8).toUInt8, (word >>> 16).toUInt8, (word >>> 24).toUInt8,
    (word >>> 32).toUInt8, (word >>> 40).toUInt8, (word >>> 48).toUInt8, (word >>> 56).toUInt8]

/-- The bytes of a word, most significant first. -/
def ofUInt32BE (word : UInt32) : ByteString :=
  [(word >>> 24).toUInt8, (word >>> 16).toUInt8, (word >>> 8).toUInt8, word.toUInt8]

@[simp]
theorem length_xor (left right : ByteString) :
    (xor left right).length = min left.length right.length := by
  simp [xor]

/-- A mask added twice cancels. -/
theorem xor_xor_cancel {bytes mask : ByteString} (length_eq : bytes.length = mask.length) :
    xor (xor bytes mask) mask = bytes := by
  apply List.ext_getElem
  · simp [length_eq]
  · intro position _ _
    simp only [xor, List.getElem_zipWith]
    rw [UInt8.xor_assoc, UInt8.xor_self, UInt8.xor_zero]

@[simp]
theorem length_bigEndian (width value : Nat) : (bigEndian width value).length = width := by
  simp [bigEndian]

@[simp]
theorem length_littleEndian (width value : Nat) : (littleEndian width value).length = width := by
  simp [littleEndian]

@[simp]
theorem length_ofUInt64LE (word : UInt64) : (ofUInt64LE word).length = 8 := rfl

@[simp]
theorem length_ofUInt32BE (word : UInt32) : (ofUInt32BE word).length = 4 := rfl

end ByteString

end KeyCustody

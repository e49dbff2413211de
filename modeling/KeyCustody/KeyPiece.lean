import KeyCustody.Hexadecimal
import KeyCustody.Secret
import KeyCustody.Text.Blank

/-!
# Key pieces

A key piece is one point of the sharing: an index, which is never zero because the value at zero is
the secret itself, and one byte for every byte of the secret. It is written as the index followed by
the data, in bytes or in hexadecimal. Reading accepts exactly the written forms, up to the case of the
digits and blanks at either end.
-/

namespace KeyCustody

/-- A key piece: the point where the sharing polynomials were evaluated, and their values there. -/
structure KeyPiece where
  /-- The point of evaluation. -/
  index : UInt8
  /-- The values, one for each byte of the secret. -/
  data : ByteString
  /-- The value at zero is the secret, so no piece stands there. -/
  index_ne_zero : index ≠ 0
  /-- A secret has at least one byte. -/
  data_ne_nil : data ≠ []
deriving DecidableEq

/-- Why a byte string or a text is no key piece. -/
inductive KeyPieceError where
  | tooShort
  | reservedIndex
  | notHexadecimal
deriving DecidableEq, Repr

namespace KeyPieceError

/-- The wording of the error. -/
def message : KeyPieceError → String
  | tooShort => "key piece must be at least 2 bytes"
  | reservedIndex => "key piece index 0 is reserved"
  | notHexadecimal => "key piece is not valid hex"

end KeyPieceError

namespace KeyPiece

/-- Reads a key piece from its bytes. -/
def ofBytes : ByteString → Except KeyPieceError KeyPiece
  | [] => .error .tooShort
  | [_] => .error .tooShort
  | index :: first :: rest =>
    if nonzero : index = 0 then .error .reservedIndex
    else .ok ⟨index, first :: rest, nonzero, List.cons_ne_nil first rest⟩

/-- Reads a key piece from hexadecimal text, blanks at either end aside. -/
def ofHexadecimal (text : String) : Except KeyPieceError KeyPiece :=
  match Hexadecimal.decode? (Text.trim text) with
  | none => .error .notHexadecimal
  | some bytes => ofBytes bytes

/-- The bytes of a key piece: its index, then its data. -/
def toBytes (piece : KeyPiece) : ByteString :=
  piece.index :: piece.data

/-- The hexadecimal text of a key piece. -/
def toHexadecimal (piece : KeyPiece) : String :=
  Hexadecimal.encode piece.toBytes

/-- The number of bytes of a key piece. -/
def size (piece : KeyPiece) : Nat :=
  piece.toBytes.length

/-- Whether two key pieces hold the same bytes. -/
def sameAs (left right : KeyPiece) : Bool :=
  left.toBytes == right.toBytes

/-- The text that shows a key piece in logs: its index and size, but not its data. -/
def shown (piece : KeyPiece) : String :=
  s!"Share \x7b index: {piece.index}, len: {piece.size}, data: \"{redacted}\" \x7d"

@[simp]
theorem size_eq (piece : KeyPiece) : piece.size = piece.data.length + 1 := rfl

theorem ofBytes_toBytes (piece : KeyPiece) : ofBytes piece.toBytes = .ok piece := by
  obtain ⟨index, data, nonzero, nonempty⟩ := piece
  cases data with
  | nil => exact absurd rfl nonempty
  | cons first rest => simp [toBytes, ofBytes, nonzero]

@[simp]
theorem sameAs_iff {left right : KeyPiece} : left.sameAs right = true ↔ left = right := by
  obtain ⟨leftIndex, leftData, _, _⟩ := left
  obtain ⟨rightIndex, rightData, _, _⟩ := right
  simp [sameAs, toBytes]

end KeyPiece

end KeyCustody

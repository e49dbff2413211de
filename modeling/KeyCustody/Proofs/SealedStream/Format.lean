import KeyCustody.Proofs.Cipher.Gcm
import KeyCustody.SealedStream.Chunk
import Mathlib.Algebra.Group.Nat.Defs

/-!
# The format of a sealed stream

A stream is its label followed by its chunks, each sealed under a nonce of the label, the number of the
chunk in four bytes and a flag. All chunks but the last hold equally many bytes of the payload, and the
flag is one for the last chunk only. A payload has one cut into as few chunks as possible; a stream
whose last chunk holds nothing is in the format as well.
-/

namespace KeyCustody

namespace SealedStream

/-- A chunk as it stands in a stream: its number and its flag are in the nonce. -/
def wireChunk (key label : ByteString) (number : Nat) (flag : UInt8) (chunk : ByteString) :
    ByteString :=
  Gcm.encrypt key (label ++ ByteString.bigEndian 4 number ++ [flag]) chunk

/-- Chunks numbered from `number` on, none of which is the last. -/
def wireChunks (key label : ByteString) : Nat → List ByteString → ByteString
  | _, [] => []
  | number, chunk :: rest =>
    wireChunk key label number 0 chunk ++ wireChunks key label (number + 1) rest

/-- All chunks of a stream from `number` on. -/
def wireFrom (key label : ByteString) (number : Nat) (chunks : List ByteString)
    (last : ByteString) : ByteString :=
  wireChunks key label number chunks ++ wireChunk key label (number + chunks.length) 1 last

/-- A whole stream. -/
def wire (key label : ByteString) (chunks : List ByteString) (last : ByteString) : ByteString :=
  label ++ wireFrom key label 0 chunks last

/-- The cut of a payload into as few chunks as possible, but at least one: `chunks` and then `last`. -/
structure IsCut (size : Nat) (payload : ByteString) (chunks : List ByteString) (last : ByteString) :
    Prop where
  payload_eq : payload = chunks.flatten ++ last
  length_eq : ∀ chunk ∈ chunks, chunk.length = size
  last_length_le : last.length ≤ size
  count_eq : chunks.length + 1 = max 1 ((payload.length + size - 1) / size)

section

variable {key label : ByteString} {number : Nat}

@[simp]
theorem length_wireChunk (flag : UInt8) (chunk : ByteString) :
    (wireChunk key label number flag chunk).length = chunk.length + Gcm.tagSize :=
  Gcm.length_encrypt _ _ chunk

theorem wireChunk_ne_nil (flag : UInt8) (chunk : ByteString) :
    wireChunk key label number flag chunk ≠ [] := by
  apply List.ne_nil_of_length_pos
  rw [length_wireChunk, Gcm.tagSize]
  omega

theorem wireFrom_nil (last : ByteString) :
    wireFrom key label number [] last = wireChunk key label number 1 last := rfl

theorem wireFrom_cons (chunk : ByteString) (rest : List ByteString) (last : ByteString) :
    wireFrom key label number (chunk :: rest) last =
      wireChunk key label number 0 chunk ++ wireFrom key label (number + 1) rest last := by
  rw [wireFrom, wireFrom, wireChunks, List.append_assoc, List.length_cons, Nat.add_assoc number 1,
    Nat.add_comm 1]

end

theorem ofUInt32BE_eq_bigEndian (number : UInt32) :
    ByteString.ofUInt32BE number = ByteString.bigEndian 4 number.toNat := by
  have positions_eq : List.range 4 = [0, 1, 2, 3] := rfl
  simp only [ByteString.ofUInt32BE, ByteString.bigEndian, positions_eq, List.map_cons, List.map_nil]
  simp only [List.cons.injEq, ← UInt8.toNat_inj, UInt32.toNat_toUInt8, UInt32.toNat_shiftRight]
  simp

section

variable {number : UInt32}

theorem number_lt_of_ne (notLast : number ≠ lastNumber) : number.toNat + 1 < 2 ^ 32 := by
  have number_lt := number.toNat_lt
  rw [Ne, ← UInt32.toNat_inj, lastNumber] at notLast
  simp only [UInt32.reduceToNat] at notLast
  omega

theorem ne_of_number_lt (number_lt : number.toNat + 1 < 2 ^ 32) : number ≠ lastNumber := by
  rintro rfl
  simp [lastNumber] at number_lt

theorem toNat_add_one (number_lt : number.toNat + 1 < 2 ^ 32) :
    (number + 1).toNat = number.toNat + 1 := by
  rw [UInt32.toNat_add, UInt32.toNat_one]
  exact Nat.mod_eq_of_lt number_lt

end

theorem chunkNonce_eq (label : ByteString) (number : UInt32) (isLast : Bool) :
    chunkNonce label number isLast =
      label ++ ByteString.bigEndian 4 number.toNat ++ [if isLast then 1 else 0] := by
  rw [chunkNonce, ofUInt32BE_eq_bigEndian]

theorem sealedChunk_eq (key label : ByteString) (number : UInt32) (isLast : Bool)
    (chunk : ByteString) :
    sealedChunk key label number isLast chunk =
      wireChunk key label number.toNat (if isLast then 1 else 0) chunk := by
  rw [sealedChunk, chunkNonce_eq, wireChunk]

/-- A chunk opens at a place exactly if it is a chunk sealed for this place. -/
theorem openedChunk?_eq_some_iff {key label : ByteString} {number : UInt32} {isLast : Bool}
    {sealed chunk : ByteString} :
    openedChunk? key label number isLast sealed = some chunk ↔
      sealed = wireChunk key label number.toNat (if isLast then 1 else 0) chunk := by
  rw [openedChunk?, Gcm.decrypt?_eq_some_iff, chunkNonce_eq, wireChunk]

namespace IsCut

variable {size : Nat} {payload : ByteString} {chunks : List ByteString} {last : ByteString}

theorem pieces_le_one (short : payload.length ≤ size) :
    max 1 ((payload.length + size - 1) / size) = 1 := by
  have quotient_lt : (payload.length + size - 1) / size < 2 := by
    rcases Nat.eq_zero_or_pos size with rfl | size_pos
    · simp
    · rw [Nat.div_lt_iff_lt_mul size_pos]
      omega
  omega

theorem pieces_of_long (size_pos : 0 < size) (long : size < payload.length) :
    max 1 ((payload.length + size - 1) / size) =
      max 1 (((payload.drop size).length + size - 1) / size) + 1 := by
  have total_eq : payload.length + size - 1 = (payload.drop size).length + size - 1 + size := by
    rw [List.length_drop]
    omega
  have rest_pos : 0 < ((payload.drop size).length + size - 1) / size := by
    apply Nat.div_pos _ size_pos
    rw [List.length_drop]
    omega
  rw [total_eq, Nat.add_div_right _ size_pos]
  omega

theorem of_short (short : payload.length ≤ size) : IsCut size payload [] payload where
  payload_eq := rfl
  length_eq := fun _ impossible => absurd impossible List.not_mem_nil
  last_length_le := short
  count_eq := (pieces_le_one short).symm

theorem of_long (size_pos : 0 < size) (long : size < payload.length)
    (isCut : IsCut size (payload.drop size) chunks last) :
    IsCut size payload (payload.take size :: chunks) last where
  payload_eq := by
    rw [List.flatten_cons, List.append_assoc, ← isCut.payload_eq, List.take_append_drop]
  length_eq := by
    intro chunk isMember
    rcases List.mem_cons.mp isMember with rfl | isMember
    · exact List.length_take_of_le (Nat.le_of_lt long)
    · exact isCut.length_eq chunk isMember
  last_length_le := isCut.last_length_le
  count_eq := by
    rw [pieces_of_long size_pos long, ← isCut.count_eq, List.length_cons]

theorem short (isCut : IsCut size payload chunks last) (short : payload.length ≤ size) :
    chunks = [] ∧ last = payload := by
  have count_eq := isCut.count_eq
  rw [pieces_le_one short] at count_eq
  have chunks_eq : chunks = [] := List.eq_nil_of_length_eq_zero (Nat.succ.inj count_eq)
  subst chunks_eq
  exact ⟨rfl, isCut.payload_eq.symm⟩

theorem long (isCut : IsCut size payload chunks last) (size_pos : 0 < size)
    (long : size < payload.length) :
    ∃ rest, chunks = payload.take size :: rest ∧ IsCut size (payload.drop size) rest last := by
  have payload_eq := isCut.payload_eq
  cases chunks with
  | nil =>
      have last_length_le := isCut.last_length_le
      rw [List.flatten_nil, List.nil_append] at payload_eq
      rw [payload_eq] at long
      omega
  | cons chunk rest =>
      have chunk_length : chunk.length = size := isCut.length_eq chunk List.mem_cons_self
      rw [List.flatten_cons, List.append_assoc] at payload_eq
      have take_eq : payload.take size = chunk := by
        rw [payload_eq, List.take_left' chunk_length]
      have drop_eq : payload.drop size = rest.flatten ++ last := by
        rw [payload_eq, List.drop_left' chunk_length]
      have count_eq := isCut.count_eq
      rw [pieces_of_long size_pos long, List.length_cons] at count_eq
      refine ⟨rest, by rw [take_eq], drop_eq, ?_, isCut.last_length_le, Nat.succ.inj count_eq⟩
      intro other isMember
      exact isCut.length_eq other (List.mem_cons_of_mem chunk isMember)

/-- A payload that fits into as many chunks as there are numbers has fewer chunks before the last. -/
theorem length_lt (isCut : IsCut size payload chunks last) (size_pos : 0 < size)
    (length_le : payload.length ≤ 2 ^ 32 * size) : chunks.length < 2 ^ 32 := by
  have quotient_le : (payload.length + size - 1) / size ≤ 2 ^ 32 := by
    rw [← Nat.lt_succ_iff, Nat.div_lt_iff_lt_mul size_pos, Nat.succ_mul]
    omega
  have count_eq := isCut.count_eq
  omega

end IsCut

theorem exists_isCut {size : Nat} (size_pos : 0 < size) (payload : ByteString) :
    ∃ chunks last, IsCut size payload chunks last := by
  generalize length_eq : payload.length = length
  induction length using Nat.strongRecOn generalizing payload with
  | ind length ih =>
      subst length_eq
      rcases Nat.lt_or_ge size payload.length with isLong | isShort
      · have shorter : (payload.drop size).length < payload.length := by
          rw [List.length_drop]
          omega
        rcases ih _ shorter (payload.drop size) rfl with ⟨chunks, last, isCut⟩
        exact ⟨payload.take size :: chunks, last, isCut.of_long size_pos isLong⟩
      · exact ⟨[], payload, .of_short isShort⟩

end SealedStream

end KeyCustody

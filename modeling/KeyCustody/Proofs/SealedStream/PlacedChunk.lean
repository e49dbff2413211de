import KeyCustody.Proofs.SealedStream.Openable
import Mathlib.Data.List.Infix

/-!
# Sealed chunks at their places

The nonce under which a chunk is sealed says where it stands: in which stream, at which number, and
whether it is the last. Whoever opens only sealed chunks of one stream, each under the nonce that it was
sealed under, therefore opens them in the order of this stream from its start on, and the last one only
after all the others.
-/

namespace KeyCustody

namespace ByteString

theorem toNat_bigEndian_four {value : Nat} (value_lt : value < 2 ^ 32) :
    toNat (bigEndian 4 value) = value := by
  have positions_eq : List.range 4 = [0, 1, 2, 3] := rfl
  simp only [toNat, bigEndian, positions_eq, List.map_cons, List.map_nil, List.foldl_cons,
    List.foldl_nil, Nat.shiftRight_eq_div_pow]
  simp
  omega

theorem bigEndian_four_injective {left right : Nat} (left_lt : left < 2 ^ 32)
    (right_lt : right < 2 ^ 32) (same : bigEndian 4 left = bigEndian 4 right) : left = right := by
  rw [← toNat_bigEndian_four left_lt, same, toNat_bigEndian_four right_lt]

end ByteString

namespace Gcm

/-- Under one key and nonce different texts are sealed differently. -/
theorem encrypt_injective {key nonce left right : ByteString}
    (same : encrypt key nonce left = encrypt key nonce right) : left = right := by
  have opened := decrypt?_encrypt key nonce left
  rw [same, decrypt?_encrypt] at opened
  exact (Option.some.inj opened).symm

end Gcm

namespace SealedStream

/-- A sealed chunk with the nonce under which it was sealed or opened. -/
structure PlacedChunk where
  nonce : ByteString
  sealed : ByteString
deriving DecidableEq

/-- A chunk of a stream at its place. -/
def placedChunk (key label : ByteString) (number : Nat) (flag : UInt8) (chunk : ByteString) :
    PlacedChunk :=
  ⟨label ++ ByteString.bigEndian 4 number ++ [flag], wireChunk key label number flag chunk⟩

/-- Chunks numbered from `number` on, none of which is the last, at their places. -/
def placedChunks (key label : ByteString) : Nat → List ByteString → List PlacedChunk
  | _, [] => []
  | number, chunk :: rest =>
    placedChunk key label number 0 chunk :: placedChunks key label (number + 1) rest

/-- The chunks that opening from a number on gets to, at their places. -/
def placedFrom (key label : ByteString) (number : Nat)
    (opened : List ByteString × Option ByteString) : List PlacedChunk :=
  placedChunks key label number opened.1 ++
    (opened.2.map (placedChunk key label (number + opened.1.length) 1)).toList

section

variable {key label : ByteString} {number : Nat}

theorem placedFrom_cons (chunk : ByteString) (later : List ByteString × Option ByteString) :
    placedFrom key label number (Prod.map (chunk :: ·) id later) =
      placedChunk key label number 0 chunk :: placedFrom key label (number + 1) later := by
  simp only [placedFrom, Prod.map_fst, Prod.map_snd, id, placedChunks, List.cons_append,
    List.length_cons, Nat.add_assoc, Nat.add_comm 1]

theorem placedFrom_last (chunks : List ByteString) (last : ByteString) :
    placedFrom key label number (chunks, some last) =
      placedFrom key label number (chunks, none) ++
        [placedChunk key label (number + chunks.length) 1 last] := by
  simp [placedFrom]

theorem placedFrom_concat (chunks : List ByteString) (chunk : ByteString) :
    placedFrom key label number (chunks ++ [chunk], none) =
      placedFrom key label number (chunks, none) ++
        [placedChunk key label (number + chunks.length) 0 chunk] := by
  induction chunks generalizing number with
  | nil => rfl
  | cons first rest ih =>
      rw [List.cons_append, List.length_cons, ← Nat.add_assoc, Nat.add_right_comm]
      exact (placedFrom_cons first (rest ++ [chunk], none)).trans
        (congrArg (placedChunk key label number 0 first :: ·) ih)

/-- Every chunk opens at its place. -/
theorem decrypt?_placedChunk (flag : UInt8) (chunk : ByteString) :
    Gcm.decrypt? key (placedChunk key label number flag chunk).nonce
      (placedChunk key label number flag chunk).sealed = some chunk :=
  Gcm.decrypt?_encrypt _ _ _

theorem mem_placedChunks {placed : PlacedChunk} {chunks : List ByteString} :
    placed ∈ placedChunks key label number chunks ↔
      ∃ position chunk, chunks[position]? = some chunk ∧
        placed = placedChunk key label (number + position) 0 chunk := by
  induction chunks generalizing number with
  | nil => simp [placedChunks]
  | cons first rest ih =>
      rw [placedChunks, List.mem_cons, ih]
      constructor
      · rintro (rfl | ⟨position, chunk, chunk_eq, rfl⟩)
        · exact ⟨0, first, rfl, rfl⟩
        · refine ⟨position + 1, chunk, chunk_eq, ?_⟩
          rw [Nat.add_assoc, Nat.add_comm 1]
      · rintro ⟨position, chunk, chunk_eq, rfl⟩
        cases position with
        | zero =>
            cases chunk_eq
            exact Or.inl rfl
        | succ position =>
            refine Or.inr ⟨position, chunk, chunk_eq, ?_⟩
            rw [Nat.add_assoc, Nat.add_comm 1]

theorem mem_placedFrom {placed : PlacedChunk} {opened : List ByteString × Option ByteString} :
    placed ∈ placedFrom key label number opened ↔
      (∃ position chunk, opened.1[position]? = some chunk ∧
        placed = placedChunk key label (number + position) 0 chunk) ∨
      ∃ last, opened.2 = some last ∧
        placed = placedChunk key label (number + opened.1.length) 1 last := by
  rw [placedFrom, List.mem_append, mem_placedChunks, Option.mem_toList, Option.map_eq_some_iff]
  simp only [eq_comm]

theorem exists_decrypt?_of_mem_placedFrom {placed : PlacedChunk}
    {opened : List ByteString × Option ByteString}
    (placed_mem : placed ∈ placedFrom key label number opened) :
    ∃ chunk, Gcm.decrypt? key placed.nonce placed.sealed = some chunk := by
  rcases mem_placedFrom.mp placed_mem with ⟨position, chunk, _, rfl⟩ | ⟨last, _, rfl⟩
  · exact ⟨chunk, decrypt?_placedChunk 0 chunk⟩
  · exact ⟨last, decrypt?_placedChunk 1 last⟩

end

section

variable {key label otherLabel : ByteString}

/-- A place and the sealed bytes tell the stream, the number, the flag and the chunk. -/
theorem placedChunk_injective (label_length : label.length = labelSize)
    (otherLabel_length : otherLabel.length = labelSize) {number otherNumber : Nat}
    (number_lt : number < 2 ^ 32) (otherNumber_lt : otherNumber < 2 ^ 32)
    {flag otherFlag : UInt8} {chunk otherChunk : ByteString}
    (same : placedChunk key label number flag chunk =
      placedChunk key otherLabel otherNumber otherFlag otherChunk) :
    label = otherLabel ∧ number = otherNumber ∧ flag = otherFlag ∧ chunk = otherChunk := by
  rcases PlacedChunk.mk.inj same with ⟨nonce_eq, sealed_eq⟩
  rcases List.append_inj' nonce_eq rfl with ⟨front_eq, flag_eq⟩
  rcases List.append_inj front_eq (label_length.trans otherLabel_length.symm) with
    ⟨label_eq, number_eq⟩
  have numbers_eq := ByteString.bigEndian_four_injective number_lt otherNumber_lt number_eq
  have flags_eq := List.singleton_inj.mp flag_eq
  subst label_eq numbers_eq flags_eq
  exact ⟨rfl, rfl, rfl, Gcm.encrypt_injective sealed_eq⟩

theorem number_eq_of_nonce_eq {number otherNumber : Nat} (number_lt : number < 2 ^ 32)
    (otherNumber_lt : otherNumber < 2 ^ 32) {flag otherFlag : UInt8} {chunk otherChunk : ByteString}
    (same : (placedChunk key label number flag chunk).nonce =
      (placedChunk key label otherNumber otherFlag otherChunk).nonce) : number = otherNumber := by
  rcases List.append_inj' same rfl with ⟨front_eq, _⟩
  have number_eq := (List.append_right_inj label).mp front_eq
  exact ByteString.bigEndian_four_injective number_lt otherNumber_lt number_eq

/-- No two chunks of a stream are sealed under the same nonce. -/
theorem nodup_nonces {number : Nat} {opened : List ByteString × Option ByteString}
    (number_lt : number + opened.1.length < 2 ^ 32) :
    ((placedFrom key label number opened).map PlacedChunk.nonce).Nodup := by
  rcases opened with ⟨chunks, last?⟩
  induction chunks generalizing number with
  | nil => cases last? <;> simp [placedFrom, placedChunks]
  | cons first rest ih =>
      rw [List.length_cons] at number_lt
      have split_eq : placedFrom key label number (first :: rest, last?) =
          placedChunk key label number 0 first :: placedFrom key label (number + 1) (rest, last?) :=
        placedFrom_cons first (rest, last?)
      have later_lt : number + 1 + rest.length < 2 ^ 32 := by omega
      rw [split_eq, List.map_cons, List.nodup_cons]
      refine ⟨?_, ih later_lt⟩
      intro nonce_mem
      rcases List.mem_map.mp nonce_mem with ⟨placed, placed_mem, nonce_eq⟩
      rcases mem_placedFrom.mp placed_mem with
        ⟨position, chunk, chunk_eq, rfl⟩ | ⟨last, last_eq, rfl⟩
      · have position_lt : position < rest.length := (List.getElem?_eq_some_iff.mp chunk_eq).1
        have number_eq := number_eq_of_nonce_eq (by omega) (by omega) nonce_eq
        omega
      · have number_eq := number_eq_of_nonce_eq later_lt (by omega) nonce_eq
        omega

variable {chunks : List ByteString} {last : ByteString}
  {opened : List ByteString × Option ByteString}

/-- Whoever opens nothing but chunks of one stream has opened this stream from its start on, and all
of it if a last chunk was among them. -/
theorem opened_of_placed_subset (label_length : label.length = labelSize)
    (otherLabel_length : otherLabel.length = labelSize) (count_lt : chunks.length < 2 ^ 32)
    (opened_lt : opened.1.length < 2 ^ 32)
    (placed_subset : ∀ placed ∈ placedFrom key otherLabel 0 opened,
      placed ∈ placedFrom key label 0 (chunks, some last)) :
    opened.1 <+: chunks ∧
      ∀ openedLast, opened.2 = some openedLast →
        otherLabel = label ∧ opened.1 = chunks ∧ openedLast = last := by
  have found_of_chunk : ∀ (position : Nat) (chunk : ByteString),
      opened.1[position]? = some chunk → chunks[position]? = some chunk := by
    intro position chunk chunk_eq
    have position_lt : position < opened.1.length := (List.getElem?_eq_some_iff.mp chunk_eq).1
    have placed_mem :=
      placed_subset _ (mem_placedFrom.mpr (Or.inl ⟨position, chunk, chunk_eq, rfl⟩))
    rcases mem_placedFrom.mp placed_mem with
      ⟨found, foundChunk, found_eq, same⟩ | ⟨foundLast, _, same⟩
    · have found_lt : found < chunks.length := (List.getElem?_eq_some_iff.mp found_eq).1
      rcases placedChunk_injective otherLabel_length label_length (by omega) (by omega) same with
        ⟨_, positions_eq, _, rfl⟩
      rw [Nat.zero_add, Nat.zero_add] at positions_eq
      rw [positions_eq]
      exact found_eq
    · dsimp only at same
      rcases placedChunk_injective otherLabel_length label_length (by omega) (by omega) same with
        ⟨_, _, impossible, _⟩
      exact absurd impossible (by decide)
  have isPrefix : opened.1 <+: chunks := by
    rw [List.prefix_iff_getElem?]
    intro position position_lt
    exact found_of_chunk position _ (List.getElem?_eq_getElem position_lt)
  refine ⟨isPrefix, ?_⟩
  intro openedLast last_eq
  have placed_mem := placed_subset _ (mem_placedFrom.mpr (Or.inr ⟨openedLast, last_eq, rfl⟩))
  rcases mem_placedFrom.mp placed_mem with
    ⟨found, foundChunk, found_eq, same⟩ | ⟨foundLast, foundLast_eq, same⟩
  · have found_lt : found < chunks.length := (List.getElem?_eq_some_iff.mp found_eq).1
    rcases placedChunk_injective otherLabel_length label_length (by omega) (by omega) same with
      ⟨_, _, impossible, _⟩
    exact absurd impossible (by decide)
  · dsimp only at same
    rcases placedChunk_injective otherLabel_length label_length (by omega) (by omega) same with
      ⟨labels_eq, counts_eq, _, rfl⟩
    rw [Nat.zero_add, Nat.zero_add] at counts_eq
    exact ⟨labels_eq, isPrefix.eq_of_length counts_eq, Option.some.inj foundLast_eq.symm⟩

end

end SealedStream

end KeyCustody

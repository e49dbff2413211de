import KeyCustody.Proofs.KeyPiece.Combination
import KeyCustody.Proofs.KeyPiece.Recovery

/-!
# What a corrupted piece does

The bytes that the pieces hold at a position enter the byte of the secret there with weights that depend
on the indices alone and are never zero. If the data of one piece is replaced, the pieces are still
combined without error, and the secret changes at exactly the positions at which that piece did. With
enough pieces of a split the result is therefore never the secret that was split.
-/

namespace KeyCustody

namespace KeyPiece

section

variable {pieces : List KeyPiece} {place : Nat} {piece corrupted : KeyPiece}
  {secret other : ByteString}

theorem map_index_set (at_place : pieces[place]? = some piece)
    (index_eq : corrupted.index = piece.index) :
    (pieces.set place corrupted).map (·.index) = pieces.map (·.index) := by
  rcases List.getElem?_eq_some_iff.mp at_place with ⟨inPieces, rfl⟩
  have inIndices : place < (pieces.map (·.index)).length := by simpa using inPieces
  have same : corrupted.index = (pieces.map (·.index))[place] := by simp [index_eq]
  rw [List.map_set, same, List.set_getElem_self]

theorem Combinable.set (combinable : Combinable pieces) (at_place : pieces[place]? = some piece)
    (index_eq : corrupted.index = piece.index)
    (length_eq : corrupted.data.length = piece.data.length) :
    Combinable (pieces.set place corrupted) where
  two_le_length := by
    rw [List.length_set]
    exact combinable.two_le_length
  size_eq left left_mem right right_mem := by
    rcases combinable.exists_width with ⟨width, widths⟩
    have widths_set : ∀ given ∈ pieces.set place corrupted, given.data.length = width := by
      intro given given_mem
      rcases List.mem_or_eq_of_mem_set given_mem with old_mem | rfl
      · exact widths given old_mem
      · rw [length_eq]
        exact widths piece (List.mem_of_getElem? at_place)
    simp [widths_set left left_mem, widths_set right right_mem]
  nodup_indices := by
    rw [map_index_set at_place index_eq]
    exact combinable.nodup_indices

/-- The replaced byte enters the secret with the weight of its piece. -/
theorem getElem_of_combine_set (combined : combine pieces = .ok secret)
    (at_place : pieces[place]? = some piece) (index_eq : corrupted.index = piece.index)
    (otherCombined : combine (pieces.set place corrupted) = .ok other) {position : Nat}
    (inSecret : position < secret.length) (inOther : position < other.length) :
    (⟨other[position]⟩ : Field256) = ⟨secret[position]⟩ +
      (piece.value position + corrupted.value position) *
        weightAtZero (pieces.map (·.index)) piece.index := by
  rw [getElem_of_combine_eq_sum otherCombined inOther, getElem_of_combine_eq_sum combined inSecret,
    map_index_set at_place index_eq, List.map_set, List.sum_set']
  rcases List.getElem?_eq_some_iff.mp at_place with ⟨inPieces, rfl⟩
  simp [inPieces, index_eq, CharTwo.neg_eq, add_mul]

theorem length_of_combine_set (combined : combine pieces = .ok secret)
    (at_place : pieces[place]? = some piece)
    (length_eq : corrupted.data.length = piece.data.length)
    (otherCombined : combine (pieces.set place corrupted) = .ok other) :
    piece.data.length = secret.length ∧ other.length = secret.length := by
  have secret_length := length_of_combine combined piece (List.mem_of_getElem? at_place)
  rcases List.getElem?_eq_some_iff.mp at_place with ⟨inPieces, _⟩
  have other_length := length_of_combine otherCombined corrupted (List.mem_set inPieces corrupted)
  omega

/-- The secret stays the same at exactly the positions at which the piece does. -/
theorem getElem?_combine_set_eq_iff (combined : combine pieces = .ok secret)
    (at_place : pieces[place]? = some piece) (index_eq : corrupted.index = piece.index)
    (length_eq : corrupted.data.length = piece.data.length)
    (otherCombined : combine (pieces.set place corrupted) = .ok other) (position : Nat) :
    other[position]? = secret[position]? ↔
      corrupted.data[position]? = piece.data[position]? := by
  rcases length_of_combine_set combined at_place length_eq otherCombined with
    ⟨piece_length, other_length⟩
  by_cases inPiece : position < piece.data.length
  · have inCorrupted : position < corrupted.data.length := by omega
    have inSecret : position < secret.length := by omega
    have inOther : position < other.length := by omega
    have weight_ne : weightAtZero (pieces.map (·.index)) piece.index ≠ 0 := by
      apply weightAtZero_ne_zero
      rw [List.mem_map]
      rintro ⟨given, _, zero⟩
      exact given.index_ne_zero zero
    have moved := getElem_of_combine_set combined at_place index_eq otherCombined inSecret inOther
    calc
      other[position]? = secret[position]? ↔
          (⟨other[position]⟩ : Field256) = ⟨secret[position]⟩ := by
        simp [inOther, inSecret]
      _ ↔ piece.value position + corrupted.value position = 0 := by
        rw [moved, add_eq_left, mul_eq_zero, or_iff_left weight_ne]
      _ ↔ corrupted.value position = piece.value position := by
        rw [CharTwo.add_eq_zero, eq_comm]
      _ ↔ corrupted.data[position]? = piece.data[position]? := by
        simp [value, List.getD_eq_getElem?_getD, inPiece, inCorrupted]
  · have beyond : piece.data.length ≤ position := Nat.not_lt.mp inPiece
    have beyondSecret : secret.length ≤ position := by omega
    have beyondOther : other.length ≤ position := by omega
    have beyondCorrupted : corrupted.data.length ≤ position := by omega
    simp [beyond, beyondSecret, beyondOther, beyondCorrupted]

theorem exists_combine_set (combined : combine pieces = .ok secret)
    (at_place : pieces[place]? = some piece) (index_eq : corrupted.index = piece.index)
    (length_eq : corrupted.data.length = piece.data.length) :
    ∃ other, combine (pieces.set place corrupted) = .ok other ∧ other.length = secret.length ∧
      ∀ position : Nat, other[position]? ≠ secret[position]? ↔
        corrupted.data[position]? ≠ piece.data[position]? := by
  have combinable := (combinable_of_combine combined).set at_place index_eq length_eq
  rcases exists_combine_iff_combinable.mpr combinable with ⟨other, otherCombined⟩
  refine ⟨other, otherCombined, ?_, ?_⟩
  · exact (length_of_combine_set combined at_place length_eq otherCombined).2
  · intro position
    exact not_congr
      (getElem?_combine_set_eq_iff combined at_place index_eq length_eq otherCombined position)

/-- If the data of one piece is replaced by other data of the same size, then pieces that could be
combined still can, and the secret differs at exactly the positions at which the data does. Hence enough
pieces of a split never give the secret once the data of one of them is changed. -/
theorem replaced_data_shows {Supply : Type} [ByteSupply Supply]
    (at_place : pieces[place]? = some piece) (index_eq : corrupted.index = piece.index)
    (length_eq : corrupted.data.length = piece.data.length) :
    (∀ secret, combine pieces = .ok secret →
      ∃ other, combine (pieces.set place corrupted) = .ok other ∧ other.length = secret.length ∧
        ∀ position : Nat, other[position]? ≠ secret[position]? ↔
          corrupted.data[position]? ≠ piece.data[position]?) ∧
    ∀ secret sharing (supply : Supply) dealt, (split secret sharing supply).1 = .ok dealt →
      pieces.Nodup → (∀ given ∈ pieces, given ∈ dealt) →
      sharing.threshold.toNat ≤ pieces.length → corrupted.data ≠ piece.data →
      ∃ wrong, combine (pieces.set place corrupted) = .ok wrong ∧ wrong.length = secret.length ∧
        wrong ≠ secret := by
  refine ⟨fun secret combined => exists_combine_set combined at_place index_eq length_eq, ?_⟩
  intro secret sharing supply dealt split_ok nodup pieces_subset enough data_ne
  have combined := combine_of_split split_ok nodup pieces_subset enough
  rcases exists_combine_set combined at_place index_eq length_eq with
    ⟨wrong, wrongCombined, wrong_length, differs⟩
  refine ⟨wrong, wrongCombined, wrong_length, ?_⟩
  rintro rfl
  apply data_ne
  apply List.ext_getElem?
  intro position
  exact not_not.mp fun changed => (differs position).mpr changed rfl

end

/-- One bit of one of three pieces of a three of five sharing is flipped. -/
theorem replaced_data_shows_one_bit :
    let piece : KeyPiece := ⟨2, [8, 223], by decide, by decide⟩
    let corrupted : KeyPiece := ⟨2, [8, 222], by decide, by decide⟩
    let pieces : List KeyPiece := [⟨5, [127, 141], by decide, by decide⟩, piece,
      ⟨4, [110, 117], by decide, by decide⟩]
    pieces[1]? = some piece ∧ corrupted.index = piece.index ∧
      corrupted.data.length = piece.data.length ∧ combine pieces = .ok [0x2A, 0x00] ∧
      (∃ other, combine (pieces.set 1 corrupted) = .ok other ∧ other[0]? = some 0x2A) ∧
      ∃ wrong, combine (pieces.set 1 corrupted) = .ok wrong ∧ wrong ≠ [0x2A, 0x00] := by
  intro piece corrupted pieces
  have combined : combine pieces = .ok [0x2A, 0x00] := by decide +kernel
  have split_ok : (split [0x2A, 0x00] ⟨5, 3⟩ (⟨[0x11, 0x00, 0x07, 0xFF]⟩ : ByteTape)).1 =
      .ok [⟨1, [59, 248], by decide, by decide⟩, piece, ⟨3, [25, 39], by decide, by decide⟩,
        ⟨4, [110, 117], by decide, by decide⟩, ⟨5, [127, 141], by decide, by decide⟩] := rfl
  rcases @replaced_data_shows pieces 1 piece corrupted ByteTape _ rfl rfl rfl with
    ⟨combinable, enough⟩
  refine ⟨rfl, rfl, rfl, combined, ?_, ?_⟩
  · rcases combinable _ combined with ⟨other, otherCombined, _, differs⟩
    refine ⟨other, otherCombined, ?_⟩
    by_contra changed
    exact (differs 0).mp changed rfl
  · rcases enough _ _ _ _ split_ok (by decide) (by decide) (by decide) (by decide) with
      ⟨wrong, wrongCombined, _, wrong_ne⟩
    exact ⟨wrong, wrongCombined, wrong_ne⟩

end KeyPiece

end KeyCustody

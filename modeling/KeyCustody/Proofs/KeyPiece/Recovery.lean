import KeyCustody.Proofs.KeyPiece.Interpolation
import KeyCustody.Proofs.KeyPiece.Polynomials

/-!
# Enough pieces give the secret back

Pieces of a split lie on polynomials with at most as many coefficients as the threshold, whatever bytes
were drawn and even if the highest coefficients drawn are zero. Any selection of at least that many
different pieces, in any order, therefore interpolates to these polynomials, and their values at zero are
the bytes of the secret.
-/

namespace KeyCustody

namespace KeyPiece

/-- Different pieces of one split stand at different points. -/
theorem nodup_index_of_subset {pieces chosen : List KeyPiece}
    (nodup_indices : (pieces.map (·.index)).Nodup) (nodup : chosen.Nodup)
    (chosen_subset : ∀ piece ∈ chosen, piece ∈ pieces) :
    (chosen.map (·.index)).Nodup := by
  apply List.Nodup.map_on _ nodup
  intro left left_mem right right_mem same
  exact List.inj_on_of_nodup_map nodup_indices (chosen_subset left left_mem)
    (chosen_subset right right_mem) same

/-- Selections of at least two different pieces of one split can be combined. -/
theorem combinable_of_subset_piecesOf {total : UInt8} {rows : List (List Field256)}
    {rows_ne : rows ≠ []} {chosen : List KeyPiece} (nodup : chosen.Nodup)
    (chosen_subset : ∀ piece ∈ chosen, piece ∈ piecesOf total rows rows_ne)
    (two_le : 2 ≤ chosen.length) :
    Combinable chosen where
  two_le_length := two_le
  size_eq left left_mem right right_mem := by
    rw [size_eq, size_eq, length_data_of_mem_piecesOf (chosen_subset left left_mem),
      length_data_of_mem_piecesOf (chosen_subset right right_mem)]
  nodup_indices := nodup_index_of_subset (nodup_index_piecesOf rows_ne) nodup chosen_subset

/-- Pieces of a split hold, at each position, the values of the polynomial drawn for it. -/
theorem value_of_mem_piecesOf {total : UInt8} {degree : Nat} {secret drawn : ByteString}
    {rows_ne : coefficientRows degree secret drawn ≠ []} {piece : KeyPiece}
    (piece_mem : piece ∈ piecesOf total (coefficientRows degree secret drawn) rows_ne)
    {position : Nat} (position_lt : position < secret.length) :
    piece.value position =
      (Field256.polynomial (coefficientsAt degree secret drawn position)).eval ⟨piece.index⟩ := by
  rw [value, data_of_mem_piecesOf piece_mem, valuesAt, coefficientRows, List.map_map,
    Field256.eval_polynomial]
  simp [List.getD_eq_getElem?_getD, position_lt]

/-- The values at zero of the polynomials of a split are the secret. -/
theorem map_eval_zero_coefficientsAt (degree : Nat) (secret drawn : ByteString) :
    ((List.range secret.length).map fun position =>
        ((Field256.polynomial (coefficientsAt degree secret drawn position)).eval 0).byte) =
      secret := by
  apply List.ext_getElem
  · simp
  · intro position _ inSecret
    simp [evaluate_coefficientsAt_zero, List.getD_eq_getElem?_getD, inSecret]

theorem combine_of_subset_piecesOf {total : UInt8} {degree : Nat} {secret drawn : ByteString}
    {rows_ne : coefficientRows degree secret drawn ≠ []} {chosen : List KeyPiece}
    (nodup : chosen.Nodup)
    (chosen_subset : ∀ piece ∈ chosen,
      piece ∈ piecesOf total (coefficientRows degree secret drawn) rows_ne)
    (two_le : 2 ≤ chosen.length) (enough : degree + 1 ≤ chosen.length) :
    combine chosen = .ok secret := by
  have combinable := combinable_of_subset_piecesOf nodup chosen_subset two_le
  have widths : ∀ piece ∈ chosen, piece.data.length = secret.length := by
    intro piece piece_mem
    rw [length_data_of_mem_piecesOf (chosen_subset piece piece_mem)]
    simp [coefficientRows]
  have degree_lt : ∀ position < secret.length,
      (Field256.polynomial (coefficientsAt degree secret drawn position)).degree <
        chosen.length := by
    intro position _
    have short := length_coefficientsAt_le degree secret drawn position
    apply lt_of_lt_of_le (Field256.degree_polynomial_lt _)
    exact_mod_cast short.trans enough
  rw [combine_of_combinable combinable widths,
    interpolateAtZero_eq_eval combinable.nodup_indices widths degree_lt
      (fun position position_lt piece piece_mem =>
        value_of_mem_piecesOf (chosen_subset piece piece_mem) position_lt),
    map_eval_zero_coefficientsAt]

/-- Any threshold of different pieces of a split, and any more, are combined into the secret. -/
theorem combine_of_split {Supply : Type} [ByteSupply Supply] {secret : ByteString}
    {sharing : Sharing} {supply : Supply} {pieces chosen : List KeyPiece}
    (split_ok : (split secret sharing supply).1 = .ok pieces) (nodup : chosen.Nodup)
    (chosen_subset : ∀ piece ∈ chosen, piece ∈ pieces)
    (enough : sharing.threshold.toNat ≤ chosen.length) : combine chosen = .ok secret := by
  rcases admissible_of_split split_ok with ⟨nonempty, two_le, le_total⟩
  have two_le_toNat : 2 ≤ sharing.threshold.toNat := two_le
  rw [split_eq nonempty two_le le_total] at split_ok
  cases split_ok
  apply combine_of_subset_piecesOf nodup chosen_subset
  · omega
  · omega

/-- A split with sensible numbers succeeds, with as many different pieces as asked for, and every
selection of at least the threshold of them, in any order, is combined into the secret. -/
theorem split_recoverable {Supply : Type} [ByteSupply Supply] {secret : ByteString}
    {sharing : Sharing} (nonempty : secret ≠ []) (two_le : 2 ≤ sharing.threshold)
    (le_total : sharing.threshold ≤ sharing.total) (supply : Supply) :
    ∃ pieces, (split secret sharing supply).1 = .ok pieces ∧
      pieces.length = sharing.total.toNat ∧ pieces.Nodup ∧
      ∀ chosen : List KeyPiece, chosen.Nodup → (∀ piece ∈ chosen, piece ∈ pieces) →
        sharing.threshold.toNat ≤ chosen.length → combine chosen = .ok secret := by
  rw [split_eq nonempty two_le le_total]
  refine ⟨_, rfl, length_piecesOf _, nodup_piecesOf _, ?_⟩
  intro chosen nodup chosen_subset enough
  have two_le_toNat : 2 ≤ sharing.threshold.toNat := two_le
  apply combine_of_subset_piecesOf nodup chosen_subset
  · omega
  · omega

/-- Three of five pieces, out of order and with a gap. The highest coefficient drawn for the first byte
is zero. -/
theorem split_recoverable_three_of_five :
    ([0x2A, 0x00] : ByteString) ≠ [] ∧ (2 : UInt8) ≤ 3 ∧ (3 : UInt8) ≤ 5 ∧
      combine [⟨5, [127, 141], by decide, by decide⟩, ⟨2, [8, 223], by decide, by decide⟩,
        ⟨4, [110, 117], by decide, by decide⟩] = .ok [0x2A, 0x00] := by
  refine ⟨by decide, by decide, by decide, ?_⟩
  rcases @split_recoverable ByteTape _ [0x2A, 0x00] ⟨5, 3⟩ (by decide) (by decide) (by decide)
    ⟨[0x11, 0x00, 0x07, 0xFF]⟩ with ⟨pieces, split_ok, _, _, recover⟩
  have pieces_eq : pieces = [⟨1, [59, 248], by decide, by decide⟩,
      ⟨2, [8, 223], by decide, by decide⟩, ⟨3, [25, 39], by decide, by decide⟩,
      ⟨4, [110, 117], by decide, by decide⟩, ⟨5, [127, 141], by decide, by decide⟩] :=
    (Except.ok.inj split_ok).symm
  subst pieces_eq
  apply recover
  · decide
  · decide
  · decide

end KeyPiece

end KeyCustody

import KeyCustody.Proofs.KeyPiece.Combination
import KeyCustody.Proofs.KeyPiece.Recovery

/-!
# What one piece too few gives

The polynomials of a split have as many coefficients as the threshold. The polynomial through one piece
fewer differs from the one that was drawn by a multiple of the product of all `x - x_i`, and the factor
is the highest coefficient, the last byte drawn for the position. At zero the product is that of the
indices, which is not zero. So each byte of the secret comes out with a summand that vanishes exactly if
the last byte drawn for it was zero.
-/

namespace KeyCustody

namespace KeyPiece

open Polynomial

section

variable {chosen : List KeyPiece} {polynomial : Field256[X]}

/-- The product of `x - x_i` over the indices `x_i` of pieces. -/
noncomputable def nodal (chosen : List KeyPiece) : Field256[X] :=
  Lagrange.nodal chosen.toFinset fun piece => ⟨piece.index⟩

theorem natDegree_nodal (nodup : chosen.Nodup) : (nodal chosen).natDegree = chosen.length := by
  rw [nodal, Lagrange.natDegree_nodal, List.toFinset_card_of_nodup nodup]

theorem eval_nodal {piece : KeyPiece} (piece_mem : piece ∈ chosen) :
    (nodal chosen).eval ⟨piece.index⟩ = 0 := by
  have node_mem : piece ∈ chosen.toFinset := List.mem_toFinset.mpr piece_mem
  exact Lagrange.eval_nodal_at_node (v := fun piece => Field256.mk piece.index) node_mem

/-- The product of the indices of pieces. -/
def productOfIndices (chosen : List KeyPiece) : Field256 :=
  (chosen.map fun piece => (⟨piece.index⟩ : Field256)).prod

theorem productOfIndices_ne_zero (chosen : List KeyPiece) : productOfIndices chosen ≠ 0 := by
  apply List.prod_ne_zero
  rw [List.mem_map]
  rintro ⟨piece, _, zero⟩
  exact piece.index_ne_zero (Field256.mk_eq_zero_iff.mp zero)

theorem eval_zero_nodal (nodup : chosen.Nodup) :
    (nodal chosen).eval 0 = productOfIndices chosen := by
  rw [nodal, Lagrange.eval_nodal, productOfIndices, ← List.prod_toFinset _ nodup]
  apply Finset.prod_congr rfl
  intro piece _
  simp [CharTwo.neg_eq]

/-- Taking away the product times the highest coefficient lowers the degree. -/
theorem degree_sub_nodal_lt (nodup : chosen.Nodup)
    (degree_lt : polynomial.degree < (chosen.length + 1 : Nat)) :
    (polynomial - C (polynomial.coeff chosen.length) * nodal chosen).degree < chosen.length := by
  have leading : (nodal chosen).coeff chosen.length = 1 := by
    rw [← natDegree_nodal nodup]
    exact Lagrange.nodal_monic
  rw [degree_lt_iff_coeff_zero] at degree_lt ⊢
  intro power power_ge
  rcases eq_or_lt_of_le power_ge with rfl | power_gt
  · simp [leading]
  · have aboveNodal : (nodal chosen).natDegree < power := by
      rw [natDegree_nodal nodup]
      exact power_gt
    simp [degree_lt power power_gt, coeff_eq_zero_of_natDegree_lt aboveNodal]

/-- What pieces give at a position where they lie on a polynomial with one coefficient too many. -/
theorem getElem_of_combine_one_short {guess : ByteString} (combined : combine chosen = .ok guess)
    {position : Nat} (inGuess : position < guess.length)
    (degree_lt : polynomial.degree < (chosen.length + 1 : Nat))
    (through : ∀ piece ∈ chosen, piece.value position = polynomial.eval ⟨piece.index⟩) :
    (⟨guess[position]⟩ : Field256) =
      polynomial.eval 0 + polynomial.coeff chosen.length * productOfIndices chosen := by
  have nodup : chosen.Nodup := (combinable_of_combine combined).nodup_indices.of_map
  rw [getElem_of_combine_eq_eval combined inGuess (degree_sub_nodal_lt nodup degree_lt)]
  · simp [eval_zero_nodal nodup, CharTwo.sub_eq_add]
  · intro piece piece_mem
    simp [eval_nodal piece_mem, through piece piece_mem]

end

/-- The last of the `count` bytes drawn for a position of the secret, among all bytes drawn for it. -/
def lastDrawn (count : Nat) (drawn : ByteString) (position : Nat) : UInt8 :=
  drawn.getD (count * (position + 1) - 1) 0

/-- The highest coefficient of the polynomial for a position is the last byte drawn for it. -/
theorem coeff_coefficientsAt {degree : Nat} (positive : 0 < degree) (secret drawn : ByteString)
    (position : Nat) :
    (Field256.polynomial (coefficientsAt degree secret drawn position)).coeff degree =
      ⟨lastDrawn degree drawn position⟩ := by
  obtain ⟨count, rfl⟩ := Nat.exists_eq_succ_of_ne_zero (Nat.ne_of_gt positive)
  rw [Field256.coeff_polynomial, coefficientsAt, lastDrawn, Nat.mul_succ]
  simp [List.getD_eq_getElem?_getD]

/-- Each byte that one piece too few give is the byte of the secret with its summand. -/
theorem getElem_of_combine_subset_piecesOf {total : UInt8} {degree : Nat}
    {secret drawn guess : ByteString} {rows_ne : coefficientRows degree secret drawn ≠ []}
    {chosen : List KeyPiece} (combined : combine chosen = .ok guess)
    (chosen_subset : ∀ piece ∈ chosen,
      piece ∈ piecesOf total (coefficientRows degree secret drawn) rows_ne)
    (length_chosen : chosen.length = degree) {position : Nat} (inGuess : position < guess.length)
    (inSecret : position < secret.length) :
    (⟨guess[position]⟩ : Field256) =
      ⟨secret[position]⟩ + ⟨lastDrawn degree drawn position⟩ * productOfIndices chosen := by
  have positive : 0 < degree := by
    have := (combinable_of_combine combined).two_le_length
    omega
  have degree_lt : (Field256.polynomial (coefficientsAt degree secret drawn position)).degree <
      (chosen.length + 1 : Nat) := by
    apply lt_of_lt_of_le (Field256.degree_polynomial_lt _)
    rw [length_chosen]
    exact_mod_cast length_coefficientsAt_le degree secret drawn position
  have through : ∀ piece ∈ chosen, piece.value position =
      (Field256.polynomial (coefficientsAt degree secret drawn position)).eval ⟨piece.index⟩ :=
    fun piece piece_mem => value_of_mem_piecesOf (chosen_subset piece piece_mem) inSecret
  rw [getElem_of_combine_one_short combined inGuess degree_lt through, length_chosen,
    coeff_coefficientsAt positive, Field256.eval_polynomial, evaluate_coefficientsAt_zero]
  simp [List.getD_eq_getElem?_getD, inSecret]

/-- One piece fewer than the threshold, in any order, combine without error. At each position they give
the byte of the secret plus the product of their indices and the last byte drawn for the position, so
that the byte is right exactly if that last byte is zero, and the secret if all of them are. -/
theorem one_short_misses_by_last_drawn {Supply : Type} [ByteSupply Supply] {secret : ByteString}
    {sharing : Sharing} (nonempty : secret ≠ []) (three_le : 3 ≤ sharing.threshold)
    (le_total : sharing.threshold ≤ sharing.total) (supply : Supply) :
    let count := sharing.threshold.toNat - 1
    ∃ pieces drawn rest, split secret sharing supply = (.ok pieces, rest) ∧
      ByteSupply.draw (count * secret.length) supply = (drawn, rest) ∧
      ∀ chosen : List KeyPiece, chosen.Nodup → (∀ piece ∈ chosen, piece ∈ pieces) →
        chosen.length = count →
        ∃ guess, combine chosen = .ok guess ∧ guess.length = secret.length ∧
          (∀ position (inGuess : position < guess.length) (inSecret : position < secret.length),
            guess[position] = secret[position] ^^^
              (⟨lastDrawn count drawn position⟩ * productOfIndices chosen).byte ∧
            (guess[position] = secret[position] ↔ lastDrawn count drawn position = 0)) ∧
          (guess = secret ↔
            ∀ position < secret.length, lastDrawn count drawn position = 0) := by
  intro count
  have three_le_toNat : 3 ≤ sharing.threshold.toNat := three_le
  have two_le : 2 ≤ sharing.threshold := by
    rw [UInt8.le_iff_toNat_le]
    exact Nat.le_of_succ_le three_le_toNat
  let drawn := (ByteSupply.draw (count * secret.length) supply).1
  refine ⟨_, drawn, _, split_eq nonempty two_le le_total supply, rfl, ?_⟩
  intro chosen nodup chosen_subset length_chosen
  have combinable := combinable_of_subset_piecesOf nodup chosen_subset (by omega)
  rcases exists_combine_iff_combinable.mpr combinable with ⟨guess, combined⟩
  have length_eq : guess.length = secret.length := by
    rcases combinable.exists_mem with ⟨piece, piece_mem⟩
    rw [← length_of_combine combined piece piece_mem,
      length_data_of_mem_piecesOf (chosen_subset piece piece_mem)]
    simp [coefficientRows]
  have missed (position : Nat) (inGuess : position < guess.length)
      (inSecret : position < secret.length) :=
    getElem_of_combine_subset_piecesOf combined chosen_subset length_chosen inGuess inSecret
  have right_iff (position : Nat) (inGuess : position < guess.length)
      (inSecret : position < secret.length) :
      guess[position] = secret[position] ↔ lastDrawn count drawn position = 0 := by
    rw [← Field256.mk.injEq, missed position inGuess inSecret, add_eq_left, mul_eq_zero,
      or_iff_left (productOfIndices_ne_zero chosen), Field256.mk_eq_zero_iff]
  refine ⟨guess, combined, length_eq, ?_, ?_⟩
  · intro position inGuess inSecret
    exact ⟨congrArg Field256.byte (missed position inGuess inSecret),
      right_iff position inGuess inSecret⟩
  · constructor
    · rintro rfl position inSecret
      exact (right_iff position inSecret inSecret).mp rfl
    · intro zeros
      apply List.ext_getElem length_eq
      intro position inGuess inSecret
      exact (right_iff position inGuess inSecret).mpr (zeros position inSecret)

/-- Two of the pieces of a three of five sharing: the last byte drawn is zero for the first byte of the
secret and not for the second. -/
theorem one_short_misses_by_last_drawn_two_of_five :
    ([0x2A, 0x00] : ByteString) ≠ [] ∧ (3 : UInt8) ≤ 3 ∧ (3 : UInt8) ≤ 5 ∧
      lastDrawn 2 [0x11, 0x00, 0x07, 0xFF] 0 = 0 ∧ lastDrawn 2 [0x11, 0x00, 0x07, 0xFF] 1 ≠ 0 ∧
      ∃ guess, combine [⟨5, [127, 141], by decide, by decide⟩,
          ⟨2, [8, 223], by decide, by decide⟩] = .ok guess ∧
        guess[0]? = some 0x2A ∧ guess ≠ [0x2A, 0x00] := by
  refine ⟨by decide, by decide, by decide, by decide, by decide, ?_⟩
  rcases @one_short_misses_by_last_drawn ByteTape _ [0x2A, 0x00] ⟨5, 3⟩ (by decide) (by decide)
    (by decide) ⟨[0x11, 0x00, 0x07, 0xFF]⟩ with ⟨pieces, drawn, rest, split_ok, draw_eq, misses⟩
  have pieces_eq : pieces = [⟨1, [59, 248], by decide, by decide⟩,
      ⟨2, [8, 223], by decide, by decide⟩, ⟨3, [25, 39], by decide, by decide⟩,
      ⟨4, [110, 117], by decide, by decide⟩, ⟨5, [127, 141], by decide, by decide⟩] :=
    (Except.ok.inj (congrArg Prod.fst split_ok)).symm
  have drawn_eq : drawn = [0x11, 0x00, 0x07, 0xFF] := (congrArg Prod.fst draw_eq).symm
  subst pieces_eq drawn_eq
  rcases misses [⟨5, [127, 141], by decide, by decide⟩, ⟨2, [8, 223], by decide, by decide⟩]
    (by decide) (by decide) (by decide) with ⟨guess, combined, length_eq, bytes, whole_iff⟩
  refine ⟨guess, combined, ?_, ?_⟩
  · have inGuess : 0 < guess.length := by simp [length_eq]
    have right := (bytes 0 inGuess (by decide)).2.mpr (by decide)
    rw [List.getElem?_eq_getElem inGuess, right]
    rfl
  · intro right
    have last_zero := whole_iff.mp right 1 (by decide)
    exact absurd last_zero (by decide)

end KeyPiece

end KeyCustody

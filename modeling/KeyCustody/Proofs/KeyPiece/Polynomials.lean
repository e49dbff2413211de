import KeyCustody.KeyPiece.Split
import KeyCustody.Proofs.Field256
import Mathlib.Algebra.Polynomial.Degree.Lemmas
import Mathlib.Algebra.Polynomial.Eval.Degree

/-!
# The polynomials behind a split

The coefficient lists of a split are read as polynomials over the field of 256 elements. A split consumes
a fixed number of random bytes, and `split_eq` gives its pieces as a function of the secret and these
bytes alone: the piece at a point holds the values there of the polynomials whose coefficients are one
byte of the secret followed by the next bytes drawn.
-/

namespace KeyCustody

open Polynomial

namespace Field256

/-- The polynomial with the given coefficients, constant term first. -/
noncomputable def polynomial : List Field256 → Field256[X]
  | [] => 0
  | coefficient :: rest => C coefficient + X * polynomial rest

@[simp]
theorem eval_polynomial (coefficients : List Field256) (point : Field256) :
    (polynomial coefficients).eval point = evaluate coefficients point := by
  induction coefficients with
  | nil => simp [polynomial, evaluate]
  | cons coefficient rest ih =>
      rw [polynomial, eval_add, eval_mul, eval_C, eval_X, ih, evaluate, evaluate, List.foldr_cons,
        mul_comm, add_comm]

@[simp]
theorem coeff_polynomial (coefficients : List Field256) (power : Nat) :
    (polynomial coefficients).coeff power = coefficients.getD power 0 := by
  induction coefficients generalizing power with
  | nil => simp [polynomial]
  | cons coefficient rest ih =>
      cases power with
      | zero => simp [polynomial]
      | succ power => simp [polynomial, ih]

theorem degree_polynomial_lt (coefficients : List Field256) :
    (polynomial coefficients).degree < coefficients.length := by
  rw [degree_lt_iff_coeff_zero]
  intro power power_ge
  simp [List.getElem?_eq_none power_ge]

@[simp]
theorem evaluate_cons_zero (coefficient : Field256) (rest : List Field256) :
    evaluate (coefficient :: rest) 0 = coefficient := by
  simp [evaluate]

end Field256

namespace ByteSupply

variable {Supply : Type} [ByteSupply Supply]

theorem draw_add (first second : Nat) (supply : Supply) :
    draw (first + second) supply =
      ((draw first supply).1 ++ (draw second (draw first supply).2).1,
        (draw second (draw first supply).2).2) := by
  induction first generalizing supply with
  | zero => simp [draw]
  | succ first ih =>
      simp only [Nat.succ_add, draw, ih, List.cons_append]

end ByteSupply

namespace KeyPiece

variable {Supply : Type} [ByteSupply Supply]

/-- The coefficients of the polynomial for one position of the secret: the byte there, and its share of
the drawn bytes. -/
def coefficientsAt (degree : Nat) (secret drawn : ByteString) (position : Nat) : List Field256 :=
  (secret.getD position 0 :: (drawn.drop (degree * position)).take degree).map Field256.mk

/-- The coefficients for all positions of the secret. -/
def coefficientRows (degree : Nat) (secret drawn : ByteString) : List (List Field256) :=
  (List.range secret.length).map (coefficientsAt degree secret drawn)

theorem length_coefficientsAt_le (degree : Nat) (secret drawn : ByteString) (position : Nat) :
    (coefficientsAt degree secret drawn position).length ≤ degree + 1 := by
  simp [coefficientsAt]

theorem evaluate_coefficientsAt_zero (degree : Nat) (secret drawn : ByteString) (position : Nat) :
    Field256.evaluate (coefficientsAt degree secret drawn position) 0 =
      ⟨secret.getD position 0⟩ := by
  simp [coefficientsAt]

theorem coefficientRows_ne_nil {secret : ByteString} (nonempty : secret ≠ []) (degree : Nat)
    (drawn : ByteString) : coefficientRows degree secret drawn ≠ [] := by
  simpa [coefficientRows] using nonempty

/-- Drawing the polynomials uses up as many bytes as there are coefficients to draw. -/
theorem drawPolynomials_eq (degree : Nat) (secret : ByteString) (supply : Supply) :
    drawPolynomials degree secret supply =
      (coefficientRows degree secret (ByteSupply.draw (degree * secret.length) supply).1,
        (ByteSupply.draw (degree * secret.length) supply).2) := by
  induction secret generalizing supply with
  | nil => rfl
  | cons byte rest ih =>
      have drawn_eq := ByteSupply.draw_add degree (degree * rest.length) supply
      rw [Nat.add_comm degree, ← Nat.mul_succ] at drawn_eq
      simp only [drawPolynomials, ih]
      rw [List.length_cons, drawn_eq]
      have first_length : (ByteSupply.draw degree supply).1.length = degree :=
        ByteSupply.length_draw degree supply
      simp only [coefficientRows, List.length_cons, List.range_succ_eq_map, List.map_cons,
        List.map_map]
      congr 2
      · simp [coefficientsAt, first_length]
      · apply List.map_congr_left
        intro position _
        have skipped : degree * (position + 1) =
            (ByteSupply.draw degree supply).1.length + degree * position := by
          rw [first_length]
          ring
        simp only [coefficientsAt, Function.comp_apply, Nat.succ_eq_add_one, List.getD_cons_succ,
          skipped, List.drop_length_add_append]

/-- The pieces of a split, as a function of the secret and the bytes drawn for it. -/
theorem split_eq {secret : ByteString} {sharing : Sharing} (nonempty : secret ≠ [])
    (two_le : 2 ≤ sharing.threshold) (le_total : sharing.threshold ≤ sharing.total)
    (supply : Supply) :
    split secret sharing supply =
      (.ok (piecesOf sharing.total
          (coefficientRows (sharing.threshold.toNat - 1) secret
            (ByteSupply.draw ((sharing.threshold.toNat - 1) * secret.length) supply).1)
          (coefficientRows_ne_nil nonempty _ _)),
        (ByteSupply.draw ((sharing.threshold.toNat - 1) * secret.length) supply).2) := by
  have notSmall : ¬sharing.threshold < 2 := UInt8.not_lt.mpr two_le
  have notAbove : ¬sharing.threshold > sharing.total := UInt8.not_lt.mpr le_total
  rw [split, if_neg notSmall, if_neg notAbove, drawPolynomials_eq]
  obtain ⟨row, rows, rows_eq⟩ := List.exists_cons_of_ne_nil
    (coefficientRows_ne_nil nonempty (sharing.threshold.toNat - 1)
      (ByteSupply.draw ((sharing.threshold.toNat - 1) * secret.length) supply).1)
  simp only [rows_eq]

/-- What is split is not empty, and the numbers are sensible. -/
theorem admissible_of_split {secret : ByteString} {sharing : Sharing} {supply : Supply}
    {pieces : List KeyPiece} (split_ok : (split secret sharing supply).1 = .ok pieces) :
    secret ≠ [] ∧ 2 ≤ sharing.threshold ∧ sharing.threshold ≤ sharing.total := by
  unfold split at split_ok
  split at split_ok
  · cases split_ok
  · rename_i notSmall
    split at split_ok
    · cases split_ok
    · rename_i notAbove
      refine ⟨?_, UInt8.not_lt.mp notSmall, UInt8.not_lt.mp notAbove⟩
      rintro rfl
      cases split_ok

/-! ## The pieces of given polynomials -/

theorem map_index_piecesOf {total : UInt8} {rows : List (List Field256)} (rows_ne : rows ≠ []) :
    (piecesOf total rows rows_ne).map (·.index) =
      (List.range total.toNat).map fun position => UInt8.ofNat (position + 1) := by
  rw [piecesOf, List.map_map, ← List.map_coe_finRange_eq_range, List.map_map]
  rfl

theorem length_piecesOf {total : UInt8} {rows : List (List Field256)} (rows_ne : rows ≠ []) :
    (piecesOf total rows rows_ne).length = total.toNat := by
  simp [piecesOf]

theorem nodup_index_piecesOf {total : UInt8} {rows : List (List Field256)} (rows_ne : rows ≠ []) :
    ((piecesOf total rows rows_ne).map (·.index)).Nodup := by
  rw [map_index_piecesOf]
  apply List.Nodup.map_on _ List.nodup_range
  intro left left_mem right right_mem same
  have total_lt := total.toNat_lt
  have sameNat := congrArg UInt8.toNat same
  simp only [UInt8.toNat_ofNat', List.mem_range] at sameNat left_mem right_mem
  omega

theorem nodup_piecesOf {total : UInt8} {rows : List (List Field256)} (rows_ne : rows ≠ []) :
    (piecesOf total rows rows_ne).Nodup :=
  (nodup_index_piecesOf rows_ne).of_map _

/-- There is a piece of a split at each point up to the total. -/
theorem exists_mem_piecesOf {total index : UInt8} {rows : List (List Field256)}
    (rows_ne : rows ≠ []) (index_ne : index ≠ 0) (index_le : index ≤ total) :
    ∃ piece ∈ piecesOf total rows rows_ne, piece.index = index := by
  have index_mem : index ∈ (piecesOf total rows rows_ne).map (·.index) := by
    rw [map_index_piecesOf, List.mem_map]
    have positive : index.toNat ≠ 0 := by
      intro zero
      apply index_ne
      exact UInt8.toNat_inj.mp zero
    have below : index.toNat ≤ total.toNat := index_le
    refine ⟨index.toNat - 1, List.mem_range.mpr (by omega), ?_⟩
    rw [Nat.sub_add_cancel (by omega)]
    exact UInt8.ofNat_toNat
  rcases List.mem_map.mp index_mem with ⟨piece, piece_mem, index_eq⟩
  exact ⟨piece, piece_mem, index_eq⟩

theorem data_of_mem_piecesOf {total : UInt8} {rows : List (List Field256)} {rows_ne : rows ≠ []}
    {piece : KeyPiece} (piece_mem : piece ∈ piecesOf total rows rows_ne) :
    piece.data = valuesAt rows piece.index := by
  rcases List.mem_map.mp piece_mem with ⟨position, _, rfl⟩
  rfl

theorem length_data_of_mem_piecesOf {total : UInt8} {rows : List (List Field256)}
    {rows_ne : rows ≠ []} {piece : KeyPiece} (piece_mem : piece ∈ piecesOf total rows rows_ne) :
    piece.data.length = rows.length := by
  rw [data_of_mem_piecesOf piece_mem, valuesAt, List.length_map]

end KeyPiece

end KeyCustody

import KeyCustody.KeyPiece.Combine
import KeyCustody.Proofs.Field256
import Mathlib.LinearAlgebra.Lagrange

/-!
# Combining is interpolation at zero

Pieces can be combined when there are at least two of them, of one size and at different points; that is
the property `Combinable`. The weights that `combine` computes are then the values at zero of the
Lagrange basis polynomials on the points. Hence each position of the result is the value at zero of any
polynomial of degree below the number of pieces that runs through the data of the pieces at that
position, and it does not matter in which order or with how many surplus pieces it is determined.
-/

namespace KeyCustody

open Polynomial

namespace KeyPiece

/-- Pieces that can be combined: several, of one size, and no two at the same point. -/
structure Combinable (pieces : List KeyPiece) : Prop where
  two_le_length : 2 ≤ pieces.length
  size_eq : ∀ left ∈ pieces, ∀ right ∈ pieces, left.size = right.size
  nodup_indices : (pieces.map (·.index)).Nodup

/-- The value of a piece at a position, as a field element. -/
def value (piece : KeyPiece) (position : Nat) : Field256 :=
  ⟨piece.data.getD position 0⟩

/-! ## The checks -/

theorem firstFault?_eq_none_iff (size : Nat) (earlier : List UInt8) (pieces : List KeyPiece) :
    firstFault? size earlier pieces = none ↔
      (∀ piece ∈ pieces, piece.size = size) ∧ (pieces.map (·.index)).Nodup ∧
        ∀ piece ∈ pieces, piece.index ∉ earlier := by
  induction pieces generalizing earlier with
  | nil => simp [firstFault?]
  | cons piece rest ih =>
      rw [firstFault?]
      by_cases sameSize : piece.size = size
      · rw [if_neg (not_not_intro sameSize)]
        by_cases repeated : piece.index ∈ earlier
        · rw [if_pos (by simpa using repeated)]
          constructor
          · intro impossible
            simp at impossible
          · rintro ⟨_, _, fresh⟩
            exact absurd repeated (fresh piece List.mem_cons_self)
        · rw [if_neg (by simpa using repeated), ih]
          simp only [List.mem_cons, forall_eq_or_imp, List.map_cons, List.nodup_cons, List.mem_map,
            not_exists, not_and, not_or]
          constructor
          · rintro ⟨sizes, nodup, fresh⟩
            exact ⟨⟨sameSize, sizes⟩,
              ⟨fun other other_mem => (fresh other other_mem).1, nodup⟩,
              repeated, fun other other_mem => (fresh other other_mem).2⟩
          · rintro ⟨⟨_, sizes⟩, ⟨distinct, nodup⟩, _, fresh⟩
            exact ⟨sizes, nodup, fun other other_mem =>
              ⟨distinct other other_mem, fresh other other_mem⟩⟩
      · rw [if_pos sameSize]
        constructor
        · intro impossible
          simp at impossible
        · rintro ⟨sizes, _⟩
          exact absurd (sizes piece List.mem_cons_self) sameSize

/-- Combinable pieces are combined without error. -/
theorem combine_of_combinable {pieces : List KeyPiece} {width : Nat}
    (combinable : Combinable pieces) (widths : ∀ piece ∈ pieces, piece.data.length = width) :
    combine pieces = .ok (interpolateAtZero width pieces) := by
  match pieces, combinable, widths with
  | [], combinable, _ => exact absurd combinable.two_le_length (by simp)
  | [_], combinable, _ => exact absurd combinable.two_le_length (by simp)
  | first :: second :: rest, combinable, widths =>
    have noFault : firstFault? first.size [] (first :: second :: rest) = none := by
      rw [firstFault?_eq_none_iff]
      refine ⟨?_, combinable.nodup_indices, by simp⟩
      intro piece piece_mem
      exact combinable.size_eq piece piece_mem first List.mem_cons_self
    simp only [combine, noFault]
    rw [widths first List.mem_cons_self]

theorem Combinable.exists_mem {pieces : List KeyPiece} (combinable : Combinable pieces) :
    ∃ piece, piece ∈ pieces :=
  List.exists_mem_of_length_pos (Nat.zero_lt_of_lt combinable.two_le_length)

theorem Combinable.exists_width {pieces : List KeyPiece} (combinable : Combinable pieces) :
    ∃ width, ∀ piece ∈ pieces, piece.data.length = width := by
  rcases combinable.exists_mem with ⟨first, first_mem⟩
  refine ⟨first.data.length, ?_⟩
  intro piece piece_mem
  simpa using combinable.size_eq piece piece_mem first first_mem

/-- Whatever is combined without error was combinable. -/
theorem combinable_of_combine {pieces : List KeyPiece} {secret : ByteString}
    (combined : combine pieces = .ok secret) : Combinable pieces := by
  match pieces, combined with
  | [], combined => simp [combine] at combined
  | [_], combined => simp [combine] at combined
  | first :: second :: rest, combined =>
    have noFault : firstFault? first.size [] (first :: second :: rest) = none := by
      cases fault : firstFault? first.size [] (first :: second :: rest) with
      | none => rfl
      | some error => simp only [combine, fault, reduceCtorEq] at combined
    rw [firstFault?_eq_none_iff] at noFault
    obtain ⟨sizes, nodup, _⟩ := noFault
    refine ⟨by simp, ?_, nodup⟩
    intro left left_mem right right_mem
    rw [sizes left left_mem, sizes right right_mem]

theorem exists_combine_iff_combinable {pieces : List KeyPiece} :
    (∃ secret, combine pieces = .ok secret) ↔ Combinable pieces := by
  constructor
  · rintro ⟨secret, combined⟩
    exact combinable_of_combine combined
  · intro combinable
    rcases combinable.exists_width with ⟨width, widths⟩
    exact ⟨_, combine_of_combinable combinable widths⟩

/-! ## The weights -/

theorem weightAtZero_eq_prod (indices : List UInt8) (index : UInt8) :
    weightAtZero indices index =
      ((indices.filter (· != index)).map fun other =>
        (⟨other⟩ * (⟨index⟩ + ⟨other⟩ : Field256)⁻¹ : Field256)).prod := by
  rw [weightAtZero, List.prod_eq_foldl, List.foldl_map]

/-- The weight at zero of a point is the value at zero of its Lagrange basis polynomial. -/
theorem weightAtZero_eq_eval_basis {indices : List UInt8} (nodup : indices.Nodup) (index : UInt8) :
    weightAtZero indices index =
      (Lagrange.basis indices.toFinset Field256.mk index).eval 0 := by
  have others : (indices.filter (· != index)).toFinset = indices.toFinset.erase index := by
    ext other
    simp [and_comm]
  rw [weightAtZero_eq_prod, ← List.prod_toFinset _ (nodup.filter _), others, Lagrange.basis,
    eval_prod]
  apply Finset.prod_congr rfl
  intro other _
  simp only [Lagrange.basisDivisor, eval_mul, eval_C, eval_sub, eval_X, zero_sub]
  rw [CharTwo.sub_eq_add, CharTwo.neg_eq, mul_comm]

/-- No weight is zero, because no point is. -/
theorem weightAtZero_ne_zero {indices : List UInt8} (nonzero : 0 ∉ indices) (index : UInt8) :
    weightAtZero indices index ≠ 0 := by
  rw [weightAtZero_eq_prod]
  apply List.prod_ne_zero
  rw [List.mem_map]
  rintro ⟨other, other_mem, zero⟩
  rw [List.mem_filter, bne_iff_ne] at other_mem
  rcases other_mem with ⟨other_mem, other_ne⟩
  rcases mul_eq_zero.mp zero with point_zero | inverse_zero
  · rw [Field256.mk_eq_zero_iff] at point_zero
    exact nonzero (point_zero ▸ other_mem)
  · rw [inv_eq_zero, CharTwo.add_eq_zero] at inverse_zero
    exact other_ne (Field256.mk.inj inverse_zero).symm

/-- A polynomial of degree below the number of points takes at zero the weighted sum of its values
at the points. -/
theorem eval_zero_eq_sum_weights {indices : List UInt8} (nodup : indices.Nodup)
    {polynomial : Field256[X]} (degree_lt : polynomial.degree < indices.length) :
    polynomial.eval 0 =
      (indices.map fun index => polynomial.eval ⟨index⟩ * weightAtZero indices index).sum := by
  have injective : Set.InjOn Field256.mk (indices.toFinset : Set UInt8) := by
    intro left _ right _ same
    exact Field256.mk.inj same
  have degree_lt_card : polynomial.degree < indices.toFinset.card := by
    rwa [List.toFinset_card_of_nodup nodup]
  have interpolated := Lagrange.eq_interpolate injective degree_lt_card
  have atZero := congrArg (eval 0) interpolated
  rw [Lagrange.interpolate_apply, eval_finsetSum] at atZero
  rw [atZero, ← List.sum_toFinset _ nodup]
  apply Finset.sum_congr rfl
  intro index _
  rw [eval_mul, eval_C, weightAtZero_eq_eval_basis nodup]

/-! ## The rows -/

/-- Adding the weighted data of pieces to a row adds to each position the weighted values there. -/
theorem foldl_addWeighted {width : Nat} (weight : UInt8 → Field256) (pieces : List KeyPiece)
    (widths : ∀ piece ∈ pieces, piece.data.length = width) (start : Nat → Field256) :
    pieces.foldl (fun row piece => addWeighted row (weight piece.index) piece.data)
        ((List.range width).map start) =
      (List.range width).map fun position =>
        start position +
          (pieces.map fun piece => piece.value position * weight piece.index).sum := by
  induction pieces generalizing start with
  | nil => simp
  | cons piece rest ih =>
      have data_eq : piece.data =
          (List.range width).map fun position => piece.data.getD position 0 := by
        apply List.ext_getElem
        · simp [widths piece List.mem_cons_self]
        · intro position inData _
          simp [List.getD_eq_getElem?_getD, List.getElem?_eq_getElem inData]
      have added : addWeighted ((List.range width).map start) (weight piece.index) piece.data =
          (List.range width).map fun position =>
            start position + piece.value position * weight piece.index := by
        rw [addWeighted]
        conv_lhs => rw [data_eq]
        rw [List.zipWith_map, List.zipWith_self]
        rfl
      have restWidths : ∀ other ∈ rest, other.data.length = width :=
        fun other other_mem => widths other (List.mem_cons_of_mem _ other_mem)
      rw [List.foldl_cons, added, ih restWidths]
      simp [add_assoc]

theorem interpolateAtZero_eq {width : Nat} {pieces : List KeyPiece}
    (widths : ∀ piece ∈ pieces, piece.data.length = width) :
    interpolateAtZero width pieces =
      (List.range width).map fun position =>
        ((pieces.map fun piece => piece.value position *
          weightAtZero (pieces.map (·.index)) piece.index).sum).byte := by
  have zeros : List.replicate width (0 : Field256) = (List.range width).map fun _ => 0 := by
    simp
  rw [interpolateAtZero]
  simp only [zeros]
  rw [foldl_addWeighted (weightAtZero (pieces.map (·.index))) pieces widths]
  simp

/-- The weighted sum of what pieces hold at a position is the value at zero of the polynomial through
it. -/
theorem sum_value_mul_weightAtZero {pieces : List KeyPiece} {position : Nat}
    {polynomial : Field256[X]} (nodup : (pieces.map (·.index)).Nodup)
    (degree_lt : polynomial.degree < pieces.length)
    (through : ∀ piece ∈ pieces, piece.value position = polynomial.eval ⟨piece.index⟩) :
    (pieces.map fun piece =>
      piece.value position * weightAtZero (pieces.map (·.index)) piece.index).sum =
      polynomial.eval 0 := by
  have degree_lt_indices : polynomial.degree < (pieces.map (·.index)).length := by
    simpa using degree_lt
  rw [eval_zero_eq_sum_weights nodup degree_lt_indices, List.map_map]
  congr 1
  apply List.map_congr_left
  intro piece piece_mem
  simp [through piece piece_mem]

/-- At each position the pieces give the value at zero of the polynomial through their data. -/
theorem interpolateAtZero_eq_eval {width : Nat} {pieces : List KeyPiece}
    (nodup : (pieces.map (·.index)).Nodup)
    (widths : ∀ piece ∈ pieces, piece.data.length = width)
    {polynomials : Nat → Field256[X]}
    (degree_lt : ∀ position < width, (polynomials position).degree < pieces.length)
    (through : ∀ position < width, ∀ piece ∈ pieces,
      piece.value position = (polynomials position).eval ⟨piece.index⟩) :
    interpolateAtZero width pieces =
      (List.range width).map fun position => ((polynomials position).eval 0).byte := by
  rw [interpolateAtZero_eq widths]
  apply List.map_congr_left
  intro position position_mem
  have position_lt : position < width := List.mem_range.mp position_mem
  rw [sum_value_mul_weightAtZero nodup (degree_lt position position_lt)
    (through position position_lt)]

/-- A combined secret has as many bytes as the data of each piece. -/
theorem length_of_combine {pieces : List KeyPiece} {secret : ByteString}
    (combined : combine pieces = .ok secret) :
    ∀ piece ∈ pieces, piece.data.length = secret.length := by
  have combinable := combinable_of_combine combined
  intro piece piece_mem
  have widths : ∀ other ∈ pieces, other.data.length = piece.data.length := by
    intro other other_mem
    simpa using combinable.size_eq other other_mem piece piece_mem
  have secret_eq := (combine_of_combinable combinable widths).symm.trans combined
  rw [← Except.ok.inj secret_eq, interpolateAtZero_eq widths]
  simp

/-- Each byte of a combined secret is the weighted sum of what the pieces hold at its position. -/
theorem getElem_of_combine_eq_sum {pieces : List KeyPiece} {secret : ByteString}
    (combined : combine pieces = .ok secret) {position : Nat}
    (inSecret : position < secret.length) :
    (⟨secret[position]⟩ : Field256) =
      (pieces.map fun piece =>
        piece.value position * weightAtZero (pieces.map (·.index)) piece.index).sum := by
  have widths := length_of_combine combined
  have secret_eq := combine_of_combinable (combinable_of_combine combined) widths
  rw [combined, interpolateAtZero_eq widths] at secret_eq
  simp [List.getElem_of_eq (Except.ok.inj secret_eq)]

/-- Each byte of a combined secret is the value at zero of the polynomial through what the pieces hold
at its position. -/
theorem getElem_of_combine_eq_eval {pieces : List KeyPiece} {secret : ByteString}
    (combined : combine pieces = .ok secret) {position : Nat}
    (inSecret : position < secret.length) {polynomial : Field256[X]}
    (degree_lt : polynomial.degree < pieces.length)
    (through : ∀ piece ∈ pieces, piece.value position = polynomial.eval ⟨piece.index⟩) :
    (⟨secret[position]⟩ : Field256) = polynomial.eval 0 := by
  rw [getElem_of_combine_eq_sum combined inSecret]
  exact sum_value_mul_weightAtZero (combinable_of_combine combined).nodup_indices degree_lt through

end KeyPiece

end KeyCustody

import KeyCustody.Proofs.KeyPiece.Polynomials
import Mathlib.Algebra.Polynomial.BigOperators
import Mathlib.Data.Fintype.Vector
import Mathlib.Probability.Distributions.Uniform

/-!
# Fewer pieces than the threshold say nothing

Given fewer points than the threshold there is a polynomial, no longer than those that are drawn, that is
one at zero and vanishes at all of them. Adding a multiple of it to a polynomial of a split changes the
secret byte as one likes and none of the values at these points. On the drawn bytes this is an exclusive
or with a mask that depends on the two secrets and the points alone, so it is a bijection on the tapes,
and what the pieces at these points show has the same distribution whatever the secret is.
-/

namespace KeyCustody

open Polynomial

namespace Field256

/-- A polynomial that is one at zero and vanishes at the given points, zero aside. -/
noncomputable def vanishingAt (indices : Finset UInt8) : Field256[X] :=
  ∏ index ∈ indices.erase 0, (1 + C (⟨index⟩ : Field256)⁻¹ * X)

theorem eval_zero_vanishingAt (indices : Finset UInt8) : (vanishingAt indices).eval 0 = 1 := by
  simp [vanishingAt, eval_prod]

theorem eval_vanishingAt {indices : Finset UInt8} {index : UInt8} (index_mem : index ∈ indices)
    (index_ne : index ≠ 0) : (vanishingAt indices).eval ⟨index⟩ = 0 := by
  have point_ne : (⟨index⟩ : Field256) ≠ 0 := by
    intro zero
    exact index_ne (congrArg byte zero)
  rw [vanishingAt, eval_prod]
  apply Finset.prod_eq_zero (Finset.mem_erase.mpr ⟨index_ne, index_mem⟩)
  simp [inv_mul_cancel₀ point_ne, CharTwo.add_self_eq_zero]

theorem natDegree_vanishingAt_le (indices : Finset UInt8) :
    (vanishingAt indices).natDegree ≤ indices.card := by
  have factor_le (point : Field256) : (1 + C point * X : Field256[X]).natDegree ≤ 1 := by
    compute_degree
  calc
    (vanishingAt indices).natDegree ≤
        ∑ index ∈ indices.erase 0, (1 + C (⟨index⟩ : Field256)⁻¹ * X : Field256[X]).natDegree :=
      natDegree_prod_le _ _
    _ ≤ ∑ _index ∈ indices.erase 0, 1 := Finset.sum_le_sum fun index _ => factor_le _
    _ = (indices.erase 0).card := by simp
    _ ≤ indices.card := Finset.card_erase_le

theorem evaluate_zipWith_add {left right : List Field256} (length_eq : left.length = right.length)
    (point : Field256) :
    evaluate (List.zipWith (· + ·) left right) point =
      evaluate left point + evaluate right point := by
  induction left generalizing right with
  | nil =>
      cases right with
      | nil => simp [evaluate]
      | cons _ _ => simp at length_eq
  | cons coefficient rest ih =>
      cases right with
      | nil => simp at length_eq
      | cons coefficient' rest' =>
          have rest_eq := ih (by simpa using length_eq)
          simp only [evaluate, List.zipWith_cons_cons, List.foldr_cons] at rest_eq ⊢
          rw [rest_eq]
          ring

/-- The coefficients of a multiple of a polynomial that is one at zero, up to a degree. -/
noncomputable def scaledRow (degree : Nat) (vanishing : Field256[X]) (scale : Field256) :
    List Field256 :=
  scale :: (List.range degree).map fun power => scale * vanishing.coeff (power + 1)

theorem evaluate_scaledRow {degree : Nat} {vanishing : Field256[X]}
    (natDegree_le : vanishing.natDegree ≤ degree) (one_at_zero : vanishing.eval 0 = 1)
    (scale point : Field256) :
    evaluate (scaledRow degree vanishing scale) point = scale * vanishing.eval point := by
  have polynomial_eq : polynomial (scaledRow degree vanishing scale) = C scale * vanishing := by
    ext power
    rw [coeff_polynomial, coeff_C_mul, scaledRow]
    cases power with
    | zero =>
        rw [coeff_zero_eq_eval_zero, one_at_zero]
        simp
    | succ power =>
        by_cases power_lt : power < degree
        · simp [List.getD_eq_getElem?_getD, power_lt]
        · rw [coeff_eq_zero_of_natDegree_lt (by omega)]
          simp [List.getD_eq_getElem?_getD, power_lt]
  rw [← eval_polynomial, polynomial_eq, eval_mul, eval_C]

end Field256

namespace ByteTape

/-- Drawing from a tape as many bytes as are written first takes these and leaves the others. -/
theorem draw_append (drawn rest : ByteString) :
    ByteSupply.draw drawn.length (⟨drawn ++ rest⟩ : ByteTape) = (drawn, ⟨rest⟩) := by
  induction drawn with
  | nil => rfl
  | cons byte drawn ih =>
      simp only [List.length_cons, ByteSupply.draw, ByteSupply.next, List.cons_append, ih]

end ByteTape

namespace KeyPiece

/-- The mask that turns the bytes drawn for one secret into bytes that give another secret the same
pieces at the given points. -/
noncomputable def exchangeMask (degree : Nat) (secret secret' : ByteString)
    (indices : Finset UInt8) : ByteString :=
  (List.range (degree * secret.length)).map fun offset =>
    ((⟨secret.getD (offset / degree) 0⟩ + ⟨secret'.getD (offset / degree) 0⟩ : Field256) *
      (Field256.vanishingAt indices).coeff (offset % degree + 1)).byte

theorem length_exchangeMask (degree : Nat) (secret secret' : ByteString)
    (indices : Finset UInt8) :
    (exchangeMask degree secret secret' indices).length = degree * secret.length := by
  simp [exchangeMask]

/-- The stretch of the mask for one position of the secret. -/
theorem take_drop_exchangeMask (degree : Nat) {position : Nat} {secret : ByteString}
    (secret' : ByteString) (indices : Finset UInt8) (position_lt : position < secret.length) :
    ((exchangeMask degree secret secret' indices).drop (degree * position)).take degree =
      (List.range degree).map fun power =>
        ((⟨secret.getD position 0⟩ + ⟨secret'.getD position 0⟩ : Field256) *
          (Field256.vanishingAt indices).coeff (power + 1)).byte := by
  have room : degree * (position + 1) ≤ degree * secret.length :=
    Nat.mul_le_mul_left degree position_lt
  rw [Nat.mul_succ] at room
  apply List.ext_getElem
  · simp only [exchangeMask, List.length_take, List.length_drop, List.length_map,
      List.length_range]
    omega
  · intro power _ power_lt
    have power_lt_degree : power < degree := by simpa using power_lt
    have quotient : (degree * position + power) / degree = position := by
      rw [Nat.mul_add_div (by omega), Nat.div_eq_of_lt power_lt_degree, Nat.add_zero]
    have remainder : (degree * position + power) % degree = power := by
      rw [Nat.mul_add_mod, Nat.mod_eq_of_lt power_lt_degree]
    simp [exchangeMask, quotient, remainder]

/-- Masking the drawn bytes and exchanging the secret adds to the polynomial of each position a multiple
of the polynomial that vanishes at the given points. -/
theorem coefficientsAt_xor_exchangeMask {degree position : Nat} {secret drawn : ByteString}
    (secret' : ByteString) (indices : Finset UInt8) (position_lt : position < secret.length) :
    coefficientsAt degree secret'
        (ByteString.xor drawn (exchangeMask degree secret secret' indices)) position =
      List.zipWith (· + ·) (coefficientsAt degree secret drawn position)
        (Field256.scaledRow degree (Field256.vanishingAt indices)
          (⟨secret.getD position 0⟩ + ⟨secret'.getD position 0⟩)) := by
  have head_eq : (⟨secret'.getD position 0⟩ : Field256) =
      ⟨secret.getD position 0⟩ + (⟨secret.getD position 0⟩ + ⟨secret'.getD position 0⟩) := by
    rw [← add_assoc, CharTwo.add_self_eq_zero, zero_add]
  have stretch := take_drop_exchangeMask degree secret' indices position_lt
  rw [coefficientsAt, coefficientsAt, Field256.scaledRow, List.map_cons, List.map_cons,
    List.zipWith_cons_cons, ByteString.xor, List.drop_zipWith, List.take_zipWith, stretch]
  refine congrArg₂ List.cons head_eq ?_
  rw [List.map_zipWith, List.zipWith_map_left, List.zipWith_map_right, List.zipWith_map_right]
  rfl

theorem valuesAt_exchange {degree : Nat} {secret secret' drawn : ByteString}
    {indices : Finset UInt8} (same_length : secret'.length = secret.length)
    (few : indices.card ≤ degree) (length_drawn : drawn.length = degree * secret.length)
    {index : UInt8} (index_mem : index ∈ indices) (index_ne : index ≠ 0) :
    valuesAt (coefficientRows degree secret'
        (ByteString.xor drawn (exchangeMask degree secret secret' indices))) index =
      valuesAt (coefficientRows degree secret drawn) index := by
  rw [valuesAt, valuesAt, coefficientRows, coefficientRows, same_length, List.map_map,
    List.map_map]
  apply List.map_congr_left
  intro position position_mem
  have position_lt : position < secret.length := List.mem_range.mp position_mem
  have room : degree * (position + 1) ≤ degree * secret.length :=
    Nat.mul_le_mul_left degree position_lt
  rw [Nat.mul_succ] at room
  have length_eq : (coefficientsAt degree secret drawn position).length =
      (Field256.scaledRow degree (Field256.vanishingAt indices)
        (⟨secret.getD position 0⟩ + ⟨secret'.getD position 0⟩)).length := by
    simp only [coefficientsAt, Field256.scaledRow, List.length_map, List.length_cons,
      List.length_take, List.length_drop, List.length_range]
    omega
  rw [Function.comp_apply, Function.comp_apply,
    coefficientsAt_xor_exchangeMask secret' indices position_lt,
    Field256.evaluate_zipWith_add length_eq,
    Field256.evaluate_scaledRow ((Field256.natDegree_vanishingAt_le indices).trans few)
      (Field256.eval_zero_vanishingAt indices),
    Field256.eval_vanishingAt index_mem index_ne, mul_zero, add_zero]

/-- Pieces with the same values at some points show the same there. -/
theorem filter_piecesOf_congr {total : UInt8} {rows rows' : List (List Field256)}
    (rows_ne : rows ≠ []) (rows'_ne : rows' ≠ []) {indices : Finset UInt8}
    (same_values : ∀ index ∈ indices, index ≠ 0 → valuesAt rows index = valuesAt rows' index) :
    (piecesOf total rows rows_ne).filter (·.index ∈ indices) =
      (piecesOf total rows' rows'_ne).filter (·.index ∈ indices) := by
  rw [piecesOf, piecesOf, List.filter_map, List.filter_map]
  apply List.map_congr_left
  intro position position_mem
  have index_mem : UInt8.ofNat (position.val + 1) ∈ indices := by
    simpa using (List.mem_filter.mp position_mem).2
  simp only [same_values _ index_mem (index_at_ne_zero position)]

/-- The tapes of random bytes that a split of a secret of a given length uses up. -/
abbrev Tape (sharing : Sharing) (length : Nat) : Type :=
  List.Vector UInt8 ((sharing.threshold.toNat - 1) * length)

/-- What a split on a tape of drawn bytes shows at some points: the pieces there, in order. -/
def seenAt (indices : Finset UInt8) (secret : ByteString) (sharing : Sharing)
    (drawn : ByteString) : Except SplitError (List KeyPiece) :=
  (split secret sharing (⟨drawn⟩ : ByteTape)).1.map fun pieces =>
    pieces.filter (·.index ∈ indices)

/-- Masking the drawn bytes is its own inverse. -/
theorem involutive_xor_exchangeMask (sharing : Sharing) (secret secret' : ByteString)
    (indices : Finset UInt8) :
    Function.Involutive fun drawn : Tape sharing secret.length =>
      (⟨ByteString.xor drawn.toList
          (exchangeMask (sharing.threshold.toNat - 1) secret secret' indices), by
        simp [length_exchangeMask]⟩ : Tape sharing secret.length) := by
  intro drawn
  apply List.Vector.toList_injective
  exact ByteString.xor_xor_cancel (by
    rw [List.Vector.toList_length, length_exchangeMask])

/-- A bijection leaves the uniform distribution as it is. -/
theorem map_equiv_uniformOfFintype {Outcome : Type} [Fintype Outcome] [Nonempty Outcome]
    (exchange : Outcome ≃ Outcome) :
    (PMF.uniformOfFintype Outcome).map exchange = PMF.uniformOfFintype Outcome := by
  ext outcome
  rw [PMF.map_apply, tsum_eq_single (exchange.symm outcome)]
  · simp
  · intro other other_ne
    rw [if_neg]
    intro same
    apply other_ne
    rw [same, Equiv.symm_apply_apply]

/-- A split draws `threshold - 1` bytes for every byte of the secret, and leaves the rest of the tape. -/
theorem split_tape_eq {secret : ByteString} {sharing : Sharing} (nonempty : secret ≠ [])
    (two_le : 2 ≤ sharing.threshold) (le_total : sharing.threshold ≤ sharing.total)
    {drawn : ByteString}
    (length_drawn : drawn.length = (sharing.threshold.toNat - 1) * secret.length)
    (rest : ByteString) :
    split secret sharing (⟨drawn ++ rest⟩ : ByteTape) =
      (.ok (piecesOf sharing.total
          (coefficientRows (sharing.threshold.toNat - 1) secret drawn)
          (coefficientRows_ne_nil nonempty _ _)), ⟨rest⟩) := by
  have drawn_eq := ByteTape.draw_append drawn rest
  rw [length_drawn] at drawn_eq
  rw [split_eq nonempty two_le le_total]
  simp only [drawn_eq]

/-- Two secrets of one length are split into pieces that agree at any fewer points than the threshold,
up to a bijection on the drawn bytes. Hence what is seen at these points has the same distribution for
both. -/
theorem exists_equiv_seenAt_eq {secret secret' : ByteString} {sharing : Sharing}
    {indices : Finset UInt8} (nonempty : secret ≠ [])
    (same_length : secret'.length = secret.length) (two_le : 2 ≤ sharing.threshold)
    (le_total : sharing.threshold ≤ sharing.total)
    (few : indices.card ≤ sharing.threshold.toNat - 1) :
    ∃ exchange : Tape sharing secret.length ≃ Tape sharing secret.length,
      (∀ drawn rest, ∃ pieces pieces',
        split secret sharing (⟨drawn.toList ++ rest⟩ : ByteTape) = (.ok pieces, ⟨rest⟩) ∧
        split secret' sharing (⟨(exchange drawn).toList ++ rest⟩ : ByteTape) =
          (.ok pieces', ⟨rest⟩) ∧
        (∀ index ≤ sharing.total, index ≠ 0 → ∃ piece ∈ pieces, piece.index = index) ∧
        pieces.filter (·.index ∈ indices) = pieces'.filter (·.index ∈ indices)) ∧
      (PMF.uniformOfFintype (Tape sharing secret.length)).map
          (fun drawn => seenAt indices secret sharing drawn.toList) =
        (PMF.uniformOfFintype (Tape sharing secret.length)).map
          (fun drawn => seenAt indices secret' sharing drawn.toList) := by
  have nonempty' : secret' ≠ [] := by
    intro empty
    apply nonempty
    rw [← List.length_eq_zero_iff, ← same_length, empty, List.length_nil]
  let exchange := (involutive_xor_exchangeMask sharing secret secret' indices).toPerm
  have agree : ∀ drawn rest, ∃ pieces pieces',
      split secret sharing (⟨drawn.toList ++ rest⟩ : ByteTape) = (.ok pieces, ⟨rest⟩) ∧
      split secret' sharing (⟨(exchange drawn).toList ++ rest⟩ : ByteTape) =
        (.ok pieces', ⟨rest⟩) ∧
      (∀ index ≤ sharing.total, index ≠ 0 → ∃ piece ∈ pieces, piece.index = index) ∧
      pieces.filter (·.index ∈ indices) = pieces'.filter (·.index ∈ indices) := by
    intro drawn rest
    refine ⟨_, _, split_tape_eq nonempty two_le le_total drawn.toList_length rest,
      split_tape_eq nonempty' two_le le_total (by
        rw [(exchange drawn).toList_length, same_length]) rest, ?_, ?_⟩
    · intro index index_le index_ne
      exact exists_mem_piecesOf _ index_ne index_le
    · apply filter_piecesOf_congr
      intro index index_mem index_ne
      exact (valuesAt_exchange same_length few drawn.toList_length index_mem index_ne).symm
  refine ⟨exchange, agree, ?_⟩
  have seen_eq : (fun drawn => seenAt indices secret sharing drawn.toList) =
      (fun drawn => seenAt indices secret' sharing drawn.toList) ∘ exchange := by
    funext drawn
    rcases agree drawn [] with ⟨pieces, pieces', split_eq, split_eq', _, same⟩
    rw [List.append_nil] at split_eq split_eq'
    rw [Function.comp_apply, seenAt, seenAt, split_eq, split_eq']
    exact congrArg Except.ok same
  rw [seen_eq, ← PMF.map_comp, map_equiv_uniformOfFintype]

/-- Two secrets of two bytes, shared three of five, look alike at the points two and five. -/
theorem exists_equiv_seenAt_eq_two_of_five :
    ([0x00, 0x2A] : ByteString) ≠ [] ∧
      ([0xFF, 0x01] : ByteString).length = ([0x00, 0x2A] : ByteString).length ∧
      (2 : UInt8) ≤ 3 ∧ (3 : UInt8) ≤ 5 ∧ ({2, 5} : Finset UInt8).card ≤ (3 : UInt8).toNat - 1 ∧
      (PMF.uniformOfFintype (Tape ⟨5, 3⟩ 2)).map
          (fun drawn => seenAt {2, 5} [0x00, 0x2A] ⟨5, 3⟩ drawn.toList) =
        (PMF.uniformOfFintype (Tape ⟨5, 3⟩ 2)).map
          (fun drawn => seenAt {2, 5} [0xFF, 0x01] ⟨5, 3⟩ drawn.toList) := by
  refine ⟨by decide, rfl, by decide, by decide, by decide, ?_⟩
  rcases @exists_equiv_seenAt_eq [0x00, 0x2A] [0xFF, 0x01] ⟨5, 3⟩ {2, 5} (by decide) rfl
    (by decide) (by decide) (by decide) with ⟨_, _, same_distribution⟩
  exact same_distribution

end KeyPiece

end KeyCustody

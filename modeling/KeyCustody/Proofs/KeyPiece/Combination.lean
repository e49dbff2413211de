import KeyCustody.Proofs.Field256.Quotient
import KeyCustody.Proofs.KeyPiece.Interpolation

/-!
# What arbitrary pieces combine to

Pieces need not come from one split. Whatever they hold, there is exactly one polynomial of degree below
their number through their data at a position, and `combine` gives its value at zero. The polynomials
are taken over the quotient of which the bytes are the classes, so the result is fixed by the algebra
alone, and it does not depend on the order of the pieces.
-/

namespace KeyCustody

namespace KeyPiece

open Polynomial
open Field256 (modulus residue quotientEquiv quotientEquiv_residue)

/-- A polynomial through the data of pieces at a position, of degree below their number, when bytes are
read as elements of a ring. -/
structure Interpolates {R : Type} [CommRing R] (element : UInt8 → R) (pieces : List KeyPiece)
    (position : Nat) (polynomial : R[X]) : Prop where
  degree_lt : polynomial.degree < pieces.length
  eval_eq : ∀ piece ∈ pieces,
    polynomial.eval (element piece.index) = element (piece.data.getD position 0)

section

variable {R : Type} [CommRing R] {element : UInt8 → R} {pieces reordered : List KeyPiece}
  {position : Nat} {polynomial : R[X]} {secret : ByteString}

theorem Interpolates.perm (interpolates : Interpolates element pieces position polynomial)
    (perm : reordered.Perm pieces) : Interpolates element reordered position polynomial where
  degree_lt := by
    rw [perm.length_eq]
    exact interpolates.degree_lt
  eval_eq piece piece_mem := interpolates.eval_eq piece (perm.mem_iff.mp piece_mem)

theorem Combinable.perm (combinable : Combinable pieces) (perm : reordered.Perm pieces) :
    Combinable reordered where
  two_le_length := by
    rw [perm.length_eq]
    exact combinable.two_le_length
  size_eq left left_mem right right_mem :=
    combinable.size_eq left (perm.mem_iff.mp left_mem) right (perm.mem_iff.mp right_mem)
  nodup_indices := (perm.map _).nodup_iff.mpr combinable.nodup_indices

/-- Pieces at different points have exactly one polynomial through them. -/
theorem existsUnique_interpolates (nodup_indices : (pieces.map (·.index)).Nodup)
    (position : Nat) : ∃! polynomial, Interpolates Field256.mk pieces position polynomial := by
  have injective : Set.InjOn (fun piece : KeyPiece => Field256.mk piece.index)
      (pieces.toFinset : Set KeyPiece) := by
    intro left left_mem right right_mem same
    simp only [List.coe_toFinset, Set.mem_ofPred_eq] at left_mem right_mem
    exact List.inj_on_of_nodup_map nodup_indices left_mem right_mem (Field256.mk.inj same)
  have card_eq : pieces.toFinset.card = pieces.length :=
    List.toFinset_card_of_nodup nodup_indices.of_map
  let interpolant := Lagrange.interpolate pieces.toFinset
    (fun piece => Field256.mk piece.index) (fun piece => piece.value position)
  refine ⟨interpolant, ⟨?_, ?_⟩, ?_⟩
  · rw [← card_eq]
    exact Lagrange.degree_interpolate_lt _ injective
  · intro piece piece_mem
    exact Lagrange.eval_interpolate_at_node _ injective (List.mem_toFinset.mpr piece_mem)
  · intro other interpolates
    apply Lagrange.eq_interpolate_of_eval_eq _ injective
    · rw [card_eq]
      exact interpolates.degree_lt
    · intro piece piece_mem
      exact interpolates.eval_eq piece (List.mem_toFinset.mp piece_mem)

/-- The pieces give the value at zero of the polynomial through them. -/
theorem Interpolates.getElem_of_combine {polynomial : Field256[X]}
    (interpolates : Interpolates Field256.mk pieces position polynomial)
    (combined : combine pieces = .ok secret) (inSecret : position < secret.length) :
    (⟨secret[position]⟩ : Field256) = polynomial.eval 0 := by
  apply getElem_of_combine_eq_eval combined inSecret interpolates.degree_lt
  intro piece piece_mem
  exact (interpolates.eval_eq piece piece_mem).symm

/-- It makes no difference whether bytes are read as field elements or as classes. -/
theorem interpolates_residue_iff {polynomial : (AdjoinRoot modulus)[X]} :
    Interpolates residue pieces position polynomial ↔
      Interpolates Field256.mk pieces position (mapEquiv quotientEquiv polynomial) := by
  have eval_iff (index byte : UInt8) :
      polynomial.eval (residue index) = residue byte ↔
        (mapEquiv quotientEquiv polynomial).eval ⟨index⟩ = ⟨byte⟩ := by
    have mapped := polynomial.eval_map_apply quotientEquiv.toRingHom (residue index)
    simp only [RingEquiv.toRingHom_eq_coe, RingHom.coe_coe, quotientEquiv_residue] at mapped
    rw [mapEquiv_apply, mapped, ← quotientEquiv_residue byte, quotientEquiv.injective.eq_iff]
  have degree_eq : (mapEquiv quotientEquiv polynomial).degree = polynomial.degree :=
    degree_map_eq_of_injective quotientEquiv.injective polynomial
  constructor
  · rintro ⟨degree_lt, eval_eq⟩
    rw [← degree_eq] at degree_lt
    exact ⟨degree_lt, fun piece piece_mem => (eval_iff _ _).mp (eval_eq piece piece_mem)⟩
  · rintro ⟨degree_lt, eval_eq⟩
    rw [degree_eq] at degree_lt
    exact ⟨degree_lt, fun piece piece_mem => (eval_iff _ _).mpr (eval_eq piece piece_mem)⟩

/-- The order of the pieces does not matter: both orders have the same polynomials through them. -/
theorem combine_perm (combined : combine pieces = .ok secret) (perm : reordered.Perm pieces) :
    combine reordered = .ok secret := by
  have combinable := combinable_of_combine combined
  rcases exists_combine_iff_combinable.mpr (combinable.perm perm) with ⟨other, otherCombined⟩
  have length_eq : other.length = secret.length := by
    rcases combinable.exists_mem with ⟨first, first_mem⟩
    rw [← length_of_combine combined first first_mem,
      length_of_combine otherCombined first (perm.mem_iff.mpr first_mem)]
  suffices same : other = secret by rw [otherCombined, same]
  apply List.ext_getElem length_eq
  intro position inOther inSecret
  rcases (existsUnique_interpolates combinable.nodup_indices position).exists with
    ⟨polynomial, interpolates⟩
  apply Field256.mk.inj
  rw [interpolates.getElem_of_combine combined inSecret,
    (interpolates.perm perm).getElem_of_combine otherCombined inOther]

theorem toOption_combine_perm (perm : reordered.Perm pieces) :
    (combine reordered).toOption = (combine pieces).toOption := by
  cases combined : combine pieces with
  | ok secret => rw [combine_perm combined perm]
  | error error =>
      cases otherCombined : combine reordered with
      | ok secret =>
          rw [combine_perm otherCombined perm.symm] at combined
          cases combined
      | error other => rfl

end

/-- Pieces are combined exactly if there are several, of one size and at different points, and are
refused as invalid input if not. The secret is one byte shorter than the pieces, and each of its bytes
is the value at zero of the only polynomial of degree below the number of pieces that runs through
what they hold at its position. In another order they give the same secret, or again none. -/
theorem combines_by_interpolation (pieces : List KeyPiece) :
    ((∃ secret, combine pieces = .ok secret) ↔ Combinable pieces) ∧
    (¬Combinable pieces → ∃ reason,
      (combine pieces).mapError CombineError.toCustodyError = .error (.invalidInput reason)) ∧
    (∀ secret, combine pieces = .ok secret →
      (∀ piece ∈ pieces, piece.size = secret.length + 1) ∧
      ∀ position (inSecret : position < secret.length),
        (∃! polynomial, Interpolates residue pieces position polynomial) ∧
        ∀ polynomial, Interpolates residue pieces position polynomial →
          residue secret[position] = polynomial.eval 0) ∧
    ∀ reordered : List KeyPiece, reordered.Perm pieces →
      (combine reordered).toOption = (combine pieces).toOption := by
  refine ⟨exists_combine_iff_combinable, ?_, ?_, fun _ => toOption_combine_perm⟩
  · intro notCombinable
    cases combined : combine pieces with
    | ok secret => exact absurd (combinable_of_combine combined) notCombinable
    | error error => exact ⟨error.message, rfl⟩
  · intro secret combined
    refine ⟨?_, ?_⟩
    · intro piece piece_mem
      simp [length_of_combine combined piece piece_mem]
    intro position inSecret
    refine ⟨?_, ?_⟩
    · have nodup_indices := (combinable_of_combine combined).nodup_indices
      simp only [interpolates_residue_iff]
      exact (mapEquiv quotientEquiv).bijective.existsUnique_iff.mp
        (existsUnique_interpolates nodup_indices position)
    · intro polynomial interpolates
      rw [interpolates_residue_iff] at interpolates
      apply quotientEquiv.injective
      rw [quotientEquiv_residue, interpolates.getElem_of_combine combined inSecret]
      simp

/-- Three pieces that come from no split, in two orders, and the same with one of them repeated. -/
theorem combines_by_interpolation_of_strangers :
    let first : KeyPiece := ⟨0xFF, [0x01, 0x02], by decide, by decide⟩
    let second : KeyPiece := ⟨0x01, [0x00, 0x00], by decide, by decide⟩
    let third : KeyPiece := ⟨0x80, [0x53, 0xCA], by decide, by decide⟩
    combine [first, second, third] = .ok [0x4E, 0x25] ∧
      (∀ polynomial, Interpolates residue [first, second, third] 1 polynomial →
        residue 0x25 = polynomial.eval 0) ∧
      (combine [third, first, second]).toOption = some [0x4E, 0x25] ∧
      ∃ reason, (combine [first, second, first]).mapError CombineError.toCustodyError =
        .error (.invalidInput reason) := by
  intro first second third
  rcases combines_by_interpolation [first, second, third] with ⟨_, _, value_at_zero, reordered⟩
  rcases combines_by_interpolation [first, second, first] with ⟨_, refused, _, _⟩
  have combined : combine [first, second, third] = .ok [0x4E, 0x25] := by decide +kernel
  have repeated : ¬Combinable [first, second, first] := by
    intro combinable
    exact absurd combinable.nodup_indices (by decide)
  refine ⟨combined, ?_, ?_, refused repeated⟩
  · exact ((value_at_zero _ combined).2 1 (by decide)).2
  · rw [reordered [third, first, second] (by decide), combined]
    rfl

end KeyPiece

end KeyCustody

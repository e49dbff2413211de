import KeyCustody.Proofs.Field256
import Mathlib.Algebra.Field.ZMod
import Mathlib.Data.Nat.Digits.Defs
import Mathlib.FieldTheory.Finiteness
import Mathlib.RingTheory.AdjoinRoot
import Mathlib.Tactic.ComputeDegree

/-!
# The field of 256 elements as a quotient

The polynomials over the field of two elements modulo `x^8 + x^4 + x^3 + x + 1` are the field of 256
elements in the textbook sense, without any shifting or reducing of bytes. A byte stands there for the
class of the polynomial that has its bits as coefficients, and `quotientEquiv` says that the computed
sums and products of bytes are the sums and products of these classes. What is stated in the quotient
therefore depends on no algorithm for the multiplication.
-/

namespace KeyCustody

namespace Field256

open Polynomial

/-- The reducing polynomial `x^8 + x^4 + x^3 + x + 1`, whose coefficients are the binary digits of
`0x11B`. -/
noncomputable def modulus : (ZMod 2)[X] := Nat.ofDigits X (Nat.digits 2 0x11B)

/-- The class that a byte stands for: its binary digits are the coefficients, lowest first. -/
noncomputable def residue (byte : UInt8) : AdjoinRoot modulus :=
  Nat.ofDigits (AdjoinRoot.root modulus) (Nat.digits 2 byte.toNat)

theorem modulus_eq : modulus = X ^ 8 + X ^ 4 + X ^ 3 + X + 1 := by
  have digits_eq : Nat.digits 2 0x11B = [1, 1, 0, 1, 1, 0, 0, 0, 1] := by norm_num
  simp only [modulus, digits_eq, Nat.ofDigits]
  push_cast
  ring

theorem natDegree_modulus : modulus.natDegree = 8 := by
  rw [modulus_eq]
  compute_degree!

theorem monic_modulus : modulus.Monic := by
  rw [modulus_eq]
  monicity!

/-- The element `x` is a root of the reducing polynomial. -/
theorem eval₂_modulus (scalars : ZMod 2 →+* Field256) : modulus.eval₂ scalars x = 0 := by
  have power_eq : x ^ 8 = x ^ 4 + x ^ 3 + x + 1 := by decide +kernel
  simp only [modulus_eq, eval₂_add, eval₂_pow, eval₂_X, eval₂_one, power_eq]
  have doubled := CharTwo.add_self_eq_zero (x ^ 4 + x ^ 3 + x + 1)
  simpa only [add_assoc] using doubled

noncomputable def ofQuotient : AdjoinRoot modulus →+* Field256 :=
  AdjoinRoot.lift (ZMod.castHom (dvd_refl 2) Field256) x (eval₂_modulus _)

theorem map_ofDigits {R S : Type} [Semiring R] [Semiring S] (map : R →+* S) (base : R)
    (digits : List Nat) : map (Nat.ofDigits base digits) = Nat.ofDigits (map base) digits := by
  induction digits with
  | nil => simp [Nat.ofDigits]
  | cons digit rest ih => simp [Nat.ofDigits, ih]

@[simp]
theorem ofQuotient_residue (byte : UInt8) : ofQuotient (residue byte) = ⟨byte⟩ := by
  have root_eq : ofQuotient (AdjoinRoot.root modulus) = x := AdjoinRoot.lift_root _
  rw [residue, map_ofDigits, root_eq]
  revert byte
  decide +kernel

/-- Every element is the image of the class of its byte, and there are no more classes than bytes. -/
theorem bijective_ofQuotient : Function.Bijective ofQuotient := by
  have finite : Module.Finite (ZMod 2) (AdjoinRoot modulus) :=
    (AdjoinRoot.powerBasis' monic_modulus).finite
  have card_quotient : Nat.card (AdjoinRoot modulus) = 256 := by
    rw [Module.natCard_eq_pow_finrank (K := ZMod 2),
      (AdjoinRoot.powerBasis' monic_modulus).finrank, AdjoinRoot.powerBasis'_dim,
      natDegree_modulus, Nat.card_zmod]
    norm_num
  have card_bytes : Nat.card Field256 = 256 :=
    Nat.card_eq_of_equiv_fin ⟨fun element => element.byte.toFin,
      fun number => ⟨UInt8.ofFin number⟩, fun _ => rfl, fun _ => rfl⟩
  have surjective : Function.Surjective ofQuotient := by
    intro element
    exact ⟨residue element.byte, ofQuotient_residue element.byte⟩
  have : Finite (AdjoinRoot modulus) := Module.finite_of_finite (ZMod 2)
  apply surjective.bijective_of_nat_card_le
  rw [card_quotient, card_bytes]

noncomputable def quotientEquiv : AdjoinRoot modulus ≃+* Field256 :=
  RingEquiv.ofBijective ofQuotient bijective_ofQuotient

@[simp]
theorem quotientEquiv_residue (byte : UInt8) : quotientEquiv (residue byte) = ⟨byte⟩ :=
  ofQuotient_residue byte

end Field256

end KeyCustody

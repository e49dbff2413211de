import KeyCustody.Field256
import Mathlib.Algebra.CharP.Two
import Mathlib.Algebra.Field.Basic
import Mathlib.Algebra.CharP.Lemmas
import Mathlib.Data.FinEnum
import Mathlib.Tactic.Ring

/-!
# The bytes form a field

Multiplication walks over the bits of one factor and needs nothing of the other but its multiples by
powers of `x`. It is therefore a sum of powers of one additive map, the product with `x`, applied to
the left factor, and two such sums commute. That law, `mulSteps_mulSteps`, and the fact that the
walk started at one copies its bits give commutativity and associativity without any search; the only
computations over all bytes are that one is neutral and that the 254th power inverts.
-/

namespace KeyCustody

namespace Field256

theorem ext {left right : Field256} (byte : left.byte = right.byte) : left = right := by
  cases left
  cases right
  simpa using byte

theorem mk_eq_zero_iff {byte : UInt8} : (⟨byte⟩ : Field256) = 0 ↔ byte = 0 :=
  ⟨congrArg Field256.byte, congrArg Field256.mk⟩

/-! ## The walk over the bits -/

theorem timesX_xor (left right : UInt8) :
    timesX (left ^^^ right) = timesX left ^^^ timesX right := by
  have topBit (factor : UInt8) : factor &&& 0x80 = 0 ∨ factor &&& 0x80 = 0x80 := by
    revert factor
    decide +kernel
  have topBit_xor : (left ^^^ right) &&& 0x80 = (left &&& 0x80) ^^^ (right &&& 0x80) := by
    rw [← UInt8.toNat_inj]
    simp [Nat.and_xor_distrib_right]
  have reduction_ne : (0x80 : UInt8) ≠ 0 := by decide
  rcases topBit left with leftTop | leftTop <;> rcases topBit right with rightTop | rightTop
  · simp [timesX, topBit_xor, leftTop, rightTop, UInt8.shiftLeft_xor]
  · simp [timesX, topBit_xor, leftTop, rightTop, UInt8.shiftLeft_xor, UInt8.xor_assoc]
  · simp only [timesX, topBit_xor, leftTop, rightTop, UInt8.shiftLeft_xor, UInt8.xor_zero,
      if_neg reduction_ne, if_true]
    ac_rfl
  · simp only [timesX, topBit_xor, leftTop, rightTop, UInt8.shiftLeft_xor, UInt8.xor_self,
      if_neg reduction_ne, if_true]
    rw [show (left <<< 1 ^^^ reduction) ^^^ (right <<< 1 ^^^ reduction) =
      (left <<< 1 ^^^ right <<< 1) ^^^ (reduction ^^^ reduction) by ac_rfl]
    simp

@[simp]
theorem timesX_zero : timesX 0 = 0 := by decide

/-- An additive map that commutes with the product with `x` passes through the walk. -/
theorem map_mulSteps (map : UInt8 → UInt8)
    (map_xor : ∀ left right, map (left ^^^ right) = map left ^^^ map right)
    (map_timesX : ∀ factor, map (timesX factor) = timesX (map factor))
    (steps : Nat) (left right sum : UInt8) :
    map (mulSteps steps left right sum) = mulSteps steps (map left) right (map sum) := by
  induction steps generalizing left right sum with
  | zero => rfl
  | succ steps ih =>
      rw [mulSteps, mulSteps, ih, map_timesX]
      by_cases lowBit : right &&& 1 = 0
      · simp [lowBit]
      · simp [lowBit, map_xor]

theorem mulSteps_xor (steps : Nat) (left left' right sum sum' : UInt8) :
    mulSteps steps (left ^^^ left') right (sum ^^^ sum') =
      mulSteps steps left right sum ^^^ mulSteps steps left' right sum' := by
  induction steps generalizing left left' right sum sum' with
  | zero => rfl
  | succ steps ih =>
      simp only [mulSteps]
      rw [timesX_xor, ← ih]
      by_cases lowBit : right &&& 1 = 0
      · simp [lowBit]
      · simp only [lowBit, if_false]
        congr 1
        ac_rfl

theorem mulSteps_timesX (steps : Nat) (left right : UInt8) :
    mulSteps steps (timesX left) right 0 = timesX (mulSteps steps left right 0) := by
  rw [map_mulSteps timesX timesX_xor (fun _ => rfl), timesX_zero]

@[simp]
theorem mulSteps_zero_left (steps : Nat) (right : UInt8) : mulSteps steps 0 right 0 = 0 := by
  have doubled := mulSteps_xor steps 0 0 right 0 0
  simpa using doubled

/-- Multiplying by one byte and then by another does not depend on the order. -/
theorem mulSteps_mulSteps (steps steps' : Nat) (factor left right : UInt8) :
    mulSteps steps (mulSteps steps' factor left 0) right 0 =
      mulSteps steps' (mulSteps steps factor right 0) left 0 := by
  have additive (first second : UInt8) :
      mulSteps steps (first ^^^ second) right 0 =
        mulSteps steps first right 0 ^^^ mulSteps steps second right 0 := by
    simpa using mulSteps_xor steps first second right 0 0
  have passes := map_mulSteps (fun byte => mulSteps steps byte right 0) additive
    (fun byte => mulSteps_timesX steps byte right) steps' factor left 0
  simpa using passes

/-- The walk started at one copies the bits of its other factor. -/
theorem mulSteps_one (byte : UInt8) : mulSteps 8 1 byte 0 = byte := by
  revert byte
  decide +kernel

/-! ## The laws of a commutative ring -/

@[simp]
theorem byte_mul (left right : Field256) :
    (left * right).byte = mulSteps 8 left.byte right.byte 0 := rfl

protected theorem add_self (element : Field256) : element + element = 0 := by
  apply Field256.ext
  simp

protected theorem mul_right_comm (factor left right : Field256) :
    factor * left * right = factor * right * left := by
  apply Field256.ext
  exact mulSteps_mulSteps 8 8 factor.byte left.byte right.byte

protected theorem one_mul (element : Field256) : 1 * element = element := by
  apply Field256.ext
  exact mulSteps_one element.byte

protected theorem mul_comm (left right : Field256) : left * right = right * left := by
  calc
    left * right = 1 * left * right := by rw [Field256.one_mul]
    _ = 1 * right * left := Field256.mul_right_comm 1 left right
    _ = right * left := by rw [Field256.one_mul]

protected theorem mul_assoc (first second third : Field256) :
    first * second * third = first * (second * third) := by
  calc
    first * second * third = second * first * third := by rw [Field256.mul_comm first second]
    _ = second * third * first := Field256.mul_right_comm second first third
    _ = first * (second * third) := Field256.mul_comm (second * third) first

protected theorem add_mul (left right factor : Field256) :
    (left + right) * factor = left * factor + right * factor := by
  apply Field256.ext
  simpa using mulSteps_xor 8 left.byte right.byte factor.byte 0 0

protected theorem mul_add (factor left right : Field256) :
    factor * (left + right) = factor * left + factor * right := by
  rw [Field256.mul_comm factor, Field256.add_mul, Field256.mul_comm left,
    Field256.mul_comm right]

protected theorem zero_mul (element : Field256) : 0 * element = 0 := by
  apply Field256.ext
  simp

instance : Neg Field256 := ⟨id⟩

instance : CommRing Field256 where
  add_assoc first second third := by
    apply Field256.ext
    simp [UInt8.xor_assoc]
  zero_add element := by
    apply Field256.ext
    simp
  add_zero element := by
    apply Field256.ext
    simp
  add_comm left right := by
    apply Field256.ext
    simp [UInt8.xor_comm]
  neg_add_cancel element := Field256.add_self element
  mul_assoc := Field256.mul_assoc
  mul_comm := Field256.mul_comm
  one_mul := Field256.one_mul
  mul_one element := by rw [Field256.mul_comm, Field256.one_mul]
  zero_mul := Field256.zero_mul
  mul_zero element := by rw [Field256.mul_comm, Field256.zero_mul]
  left_distrib := Field256.mul_add
  right_distrib := Field256.add_mul
  nsmul := nsmulRec
  zsmul := zsmulRec

instance : CharP Field256 2 :=
  CharTwo.of_one_ne_zero_of_two_eq_zero (by decide) (by
    rw [← one_add_one_eq_two]
    exact Field256.add_self 1)

/-! ## The field -/

/-- The element `x`. -/
def x : Field256 := ⟨2⟩

theorem timesX_eq (byte : UInt8) : timesX byte = (x * ⟨byte⟩).byte := by
  have two_eq : (2 : UInt8) = timesX 1 := by decide
  rw [byte_mul, x, two_eq, mulSteps_timesX, mulSteps_one]

theorem pow_256_add (left right : Field256) : (left + right) ^ 256 = left ^ 256 + right ^ 256 :=
  add_pow_char_pow left right (p := 2) (n := 8)

theorem x_pow_256 : x ^ 256 = x := by
  have squared (element : Field256) : element ^ 256 =
      ((((((((element ^ 2) ^ 2) ^ 2) ^ 2) ^ 2) ^ 2) ^ 2) ^ 2) := by
    ring
  simp only [squared, sq]
  decide +kernel

/-- The 256th power is an additive map that commutes with the product with `x`, so it passes through
the walk that copies the bits of an element. -/
theorem pow_256 (element : Field256) : element ^ 256 = element := by
  have passes := map_mulSteps (fun byte => ((⟨byte⟩ : Field256) ^ 256).byte)
    (fun left right => congrArg byte (pow_256_add ⟨left⟩ ⟨right⟩))
    (fun factor => by
      rw [timesX_eq, timesX_eq, mul_pow, x_pow_256])
    8 1 element.byte 0
  have one_pow_256 : ((⟨1⟩ : Field256) ^ 256).byte = 1 := congrArg byte (one_pow 256)
  have zero_pow_256 : ((⟨0⟩ : Field256) ^ 256).byte = 0 :=
    congrArg byte (zero_pow (by decide) : (0 : Field256) ^ 256 = 0)
  simp only [mulSteps_one, one_pow_256, zero_pow_256] at passes
  exact Field256.ext passes

theorem eq_zero_or_one_of_mul_self {element : Field256} (idempotent : element * element = element) :
    element = 0 ∨ element = 1 := by
  have bytes : ∀ byte : UInt8, mulSteps 8 byte byte 0 = byte → byte = 0 ∨ byte = 1 := by
    decide +kernel
  rcases bytes element.byte (congrArg byte idempotent) with zero | one
  · exact Or.inl (Field256.ext zero)
  · exact Or.inr (Field256.ext one)

/-- The 255th power of an element other than zero is one, because it is idempotent. -/
theorem pow_255 {element : Field256} (nonzero : element ≠ 0) : element ^ 255 = 1 := by
  have idempotent : element ^ 255 * element ^ 255 = element ^ 255 := by
    calc
      element ^ 255 * element ^ 255 = element ^ 256 * element ^ 254 := by ring
      _ = element * element ^ 254 := by rw [pow_256]
      _ = element ^ 255 := by ring
  rcases eq_zero_or_one_of_mul_self idempotent with zero | one
  · exfalso
    apply nonzero
    calc
      element = element ^ 256 := (pow_256 element).symm
      _ = element * element ^ 255 := by ring
      _ = 0 := by rw [zero, mul_zero]
  · exact one

theorem inv_eq_pow (element : Field256) : element⁻¹ = element ^ 254 := by
  change inv element = element ^ 254
  simp only [inv, List.foldl_cons, List.foldl_nil]
  ring

instance : Field Field256 where
  exists_pair_ne := ⟨0, 1, by decide⟩
  mul_inv_cancel element nonzero := by
    rw [inv_eq_pow, ← pow_succ', pow_255 nonzero]
  inv_zero := by
    rw [inv_eq_pow, zero_pow (by decide)]
  nnqsmul := _
  qsmul := _

end Field256

end KeyCustody

/-!
# The field of 256 elements

The elements are bytes, read as polynomials over the field of two elements modulo
`x^8 + x^4 + x^3 + x + 1`. Addition is exclusive or. Multiplication shifts and reduces one factor
while it walks over the bits of the other, and the inverse is the 254th power, which is right because
the multiplicative group has 255 elements. Key pieces and the block cipher both compute in this field.
-/

namespace KeyCustody

/-- An element of the field of 256 elements. -/
structure Field256 where
  /-- The coefficients, lowest in the lowest bit. -/
  byte : UInt8
deriving DecidableEq, Inhabited

namespace Field256

/-- The low byte of the reducing polynomial `x^8 + x^4 + x^3 + x + 1`. -/
def reduction : UInt8 := 0x1B

instance : Zero Field256 := ⟨⟨0⟩⟩

instance : One Field256 := ⟨⟨1⟩⟩

/-- Addition and subtraction are both exclusive or, because `1 + 1 = 0`. -/
instance : Add Field256 := ⟨fun left right => ⟨left.byte ^^^ right.byte⟩⟩

/-- The product with `x`: a shift, reduced when the top coefficient was one. -/
def timesX (factor : UInt8) : UInt8 :=
  if factor &&& 0x80 = 0 then factor <<< 1 else (factor <<< 1) ^^^ reduction

/-- Adds to `sum` the product of `left` with the `steps` lowest coefficients of `right`. -/
def mulSteps : Nat → UInt8 → UInt8 → UInt8 → UInt8
  | 0, _, _, sum => sum
  | steps + 1, left, right, sum =>
    mulSteps steps (timesX left) (right >>> 1) (if right &&& 1 = 0 then sum else sum ^^^ left)

instance : Mul Field256 := ⟨fun left right => ⟨mulSteps 8 left.byte right.byte 0⟩⟩

/-- The inverse `a^254`, the product of `a^2, a^4, …, a^128`; it sends zero to zero. -/
def inv (element : Field256) : Field256 :=
  let power2 := element * element
  let power4 := power2 * power2
  let power8 := power4 * power4
  let power16 := power8 * power8
  let power32 := power16 * power16
  let power64 := power32 * power32
  let power128 := power64 * power64
  [power64, power32, power16, power8, power4, power2].foldl (· * ·) power128

instance : Inv Field256 := ⟨inv⟩

/-- The value at `point` of the polynomial with the given coefficients, constant term first. -/
def evaluate (coefficients : List Field256) (point : Field256) : Field256 :=
  coefficients.foldr (fun coefficient value => value * point + coefficient) 0

@[simp]
theorem byte_add (left right : Field256) : (left + right).byte = left.byte ^^^ right.byte := rfl

@[simp]
theorem byte_zero : (0 : Field256).byte = 0 := rfl

@[simp]
theorem byte_one : (1 : Field256).byte = 1 := rfl

end Field256

end KeyCustody

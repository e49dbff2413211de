/-!
# The range of binary64 floats

Which decimal numbers are too large to be rounded to a finite binary64 float.
-/

namespace KeyCustody

namespace Binary64

/-- The least number that is rounded to infinity: the largest finite float and half the distance to
the power of two above it. -/
def limit : Nat := (1 <<< 1024) - (1 <<< 970)

/-- Whether a number given by at most `count` decimal digits and a power of ten is rounded to
infinity. -/
def overflows (digits count : Nat) (exponent : Int) : Bool :=
  if digits = 0 then false
  else if 400 < exponent then true
  else if 0 ≤ exponent then limit ≤ digits * Nat.pow 10 exponent.toNat
  else limit * Nat.pow 10 (min exponent.natAbs count) ≤ digits

end Binary64

end KeyCustody

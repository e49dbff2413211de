import KeyCustody.ByteSupply
import KeyCustody.Field256
import KeyCustody.KeyPiece

/-!
# Splitting a secret into key pieces

Every byte of the secret is the constant term of a polynomial of its own, whose other coefficients are
drawn at random: one fewer than the threshold, so that as many pieces as the threshold fix the
polynomial and fewer leave every secret possible. The pieces hold the values of all polynomials at
`1, 2, …, total`.
-/

namespace KeyCustody

/-- Why a secret cannot be split as asked. -/
inductive SplitError where
  /-- A threshold below two would hand the secret to every holder of a piece. -/
  | thresholdTooSmall (threshold : UInt8)
  | thresholdAboveTotal (threshold total : UInt8)
  | emptySecret
deriving DecidableEq, Repr

namespace SplitError

/-- The wording of the error. -/
def message : SplitError → String
  | thresholdTooSmall threshold => s!"threshold must be at least 2, got {threshold}"
  | thresholdAboveTotal threshold total =>
    s!"threshold ({threshold}) cannot exceed total key pieces ({total})"
  | emptySecret => "secret must not be empty"

end SplitError

/-- How many key pieces there are and how many of them give the secret back. -/
structure Sharing where
  total : UInt8
  threshold : UInt8
deriving DecidableEq, Repr

namespace KeyPiece

variable {Supply : Type} [ByteSupply Supply]

/-- For each byte of the secret the polynomial that starts with it and goes on with `degree` drawn
coefficients. -/
def drawPolynomials (degree : Nat) : ByteString → Supply → List (List Field256) × Supply
  | [], supply => ([], supply)
  | byte :: rest, supply =>
    let (coefficients, afterByte) := ByteSupply.draw degree supply
    let (polynomials, afterRest) := drawPolynomials degree rest afterByte
    ((byte :: coefficients).map Field256.mk :: polynomials, afterRest)

/-- The values of the polynomials at one point. -/
def valuesAt (polynomials : List (List Field256)) (point : UInt8) : ByteString :=
  polynomials.map fun coefficients => (Field256.evaluate coefficients ⟨point⟩).byte

/-- The index of the piece at a position, counted from one, is not zero. -/
theorem index_at_ne_zero {total : UInt8} (position : Fin total.toNat) :
    UInt8.ofNat (position.val + 1) ≠ 0 := by
  have bound : position.val + 1 < 256 := by
    have := position.isLt
    have := total.toNat_lt
    omega
  intro zero
  have := congrArg UInt8.toNat zero
  simp [UInt8.toNat_ofNat'] at this
  omega

/-- The pieces at `1, 2, …, total` of the given polynomials. -/
def piecesOf (total : UInt8) (polynomials : List (List Field256)) (nonempty : polynomials ≠ []) :
    List KeyPiece :=
  (List.finRange total.toNat).map fun position =>
    let index := UInt8.ofNat (position.val + 1)
    ⟨index, valuesAt polynomials index, index_at_ne_zero position, by simpa [valuesAt] using nonempty⟩

/-- Splits a secret. Bytes are drawn only when the numbers are in order: for each byte of the secret
in turn, the coefficients of the first, second and higher powers. -/
def split (secret : ByteString) (sharing : Sharing) (supply : Supply) :
    Except SplitError (List KeyPiece) × Supply :=
  if sharing.threshold < 2 then (.error (.thresholdTooSmall sharing.threshold), supply)
  else if sharing.threshold > sharing.total then
    (.error (.thresholdAboveTotal sharing.threshold sharing.total), supply)
  else
    match drawPolynomials (sharing.threshold.toNat - 1) secret supply with
    | ([], afterDraw) => (.error .emptySecret, afterDraw)
    | (polynomial :: polynomials, afterDraw) =>
      (.ok (piecesOf sharing.total (polynomial :: polynomials) (List.cons_ne_nil _ _)), afterDraw)

end KeyPiece

end KeyCustody

import KeyCustody.CustodyError
import KeyCustody.Field256
import KeyCustody.KeyPiece

/-!
# Combining key pieces

The secret is the value at zero of the polynomials through the given points, one polynomial for each
position of the data. By Lagrange that value is a sum of the data weighted by
`∏ x_j / (x_i - x_j)`, and the weights depend on the indices alone. Pieces that do not belong together
give some other secret and no error, so the result has to be checked against a recorded digest.
-/

namespace KeyCustody

/-- Why key pieces cannot be combined. -/
inductive CombineError where
  | tooFewPieces (count : Nat)
  | unequalSizes
  | repeatedIndex
deriving DecidableEq, Repr

namespace CombineError

/-- The wording of the error. -/
def message : CombineError → String
  | tooFewPieces count => s!"at least 2 key pieces are required, got {count}"
  | unequalSizes => "key pieces have mismatched lengths"
  | repeatedIndex => "duplicate key piece index"

/-- The error as callers see it. -/
def toCustodyError (error : CombineError) : CustodyError := .invalidInput error.message

end CombineError

namespace KeyPiece

/-- The first fault in a list of pieces, each compared with the common size and the pieces before it. -/
def firstFault? (size : Nat) : List UInt8 → List KeyPiece → Option CombineError
  | _, [] => none
  | earlier, piece :: rest =>
    if piece.size ≠ size then some .unequalSizes
    else if earlier.contains piece.index then some .repeatedIndex
    else firstFault? size (piece.index :: earlier) rest

/-- The weight at zero of the point `index` among all points: the product of `x / (index - x)` over
the other points `x`. -/
def weightAtZero (indices : List UInt8) (index : UInt8) : Field256 :=
  (indices.filter (· != index)).foldl
    (fun product other => product * (⟨other⟩ * (⟨index⟩ + ⟨other⟩ : Field256)⁻¹)) 1

/-- Adds to a row of field elements the data of a piece times a weight. -/
def addWeighted (row : List Field256) (weight : Field256) (data : ByteString) : List Field256 :=
  List.zipWith (fun sum byte => sum + ⟨byte⟩ * weight) row data

/-- The values at zero of the polynomials through the data of the pieces. -/
def interpolateAtZero (width : Nat) (pieces : List KeyPiece) : ByteString :=
  let indices := pieces.map (·.index)
  let sums := pieces.foldl
    (fun row piece => addWeighted row (weightAtZero indices piece.index) piece.data)
    (List.replicate width 0)
  sums.map (·.byte)

/-- Combines key pieces into the secret that they share. -/
def combine : List KeyPiece → Except CombineError ByteString
  | [] => .error (.tooFewPieces 0)
  | [_] => .error (.tooFewPieces 1)
  | first :: second :: rest =>
    let pieces := first :: second :: rest
    match firstFault? first.size [] pieces with
    | some fault => .error fault
    | none => .ok (interpolateAtZero first.data.length pieces)

end KeyPiece

end KeyCustody

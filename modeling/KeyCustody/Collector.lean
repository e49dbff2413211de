import KeyCustody.CustodyError
import KeyCustody.KeyPiece.Combine
import KeyCustody.WrappedKey

/-!
# The collector of key pieces

Pieces that operators submit are held, each content once and no more than the threshold, until there
are enough to rebuild the root key. Pieces of another size than a root key piece are never held, so that
they cannot take the place of a genuine one.
-/

namespace KeyCustody

/-- The number of bytes of a piece of a root key: its index and one byte for each byte of the key. -/
def rootKeyPieceSize : Nat := keySize + 1

/-- The held key pieces and how many are needed. -/
structure Collector where
  threshold : UInt8
  held : List KeyPiece
deriving DecidableEq

/-- Why a piece was not taken. -/
inductive CollectError where
  | wrongSize (size : Nat)
  | alreadyFull (held : Nat)
deriving DecidableEq, Repr

/-- Why no key was rebuilt. -/
inductive ReconstructError where
  | notReady (held : Nat) (threshold : UInt8)
  | unusable (error : CombineError)
deriving DecidableEq, Repr

namespace CollectError

/-- The error as callers see it. -/
def toCustodyError : CollectError → CustodyError
  | wrongSize size => .invalidInput s!"key piece is {size} bytes, expected {rootKeyPieceSize}"
  | alreadyFull held => .conflict s!"already holding {held} key pieces"

end CollectError

namespace Collector

/-- The line that tells operators how many pieces are held and needed. -/
def progressMessage (held : Nat) (threshold : UInt8) : String :=
  s!"collected {held} of {threshold} root key pieces"

end Collector

namespace ReconstructError

/-- The error as callers see it. -/
def toCustodyError : ReconstructError → CustodyError
  | notReady held threshold => .notReady (Collector.progressMessage held threshold)
  | unusable error => error.toCustodyError

end ReconstructError

namespace Collector

/-- A collector that holds nothing. -/
def empty (threshold : UInt8) : Collector := ⟨threshold, []⟩

/-- The number of held pieces. -/
def size (collector : Collector) : Nat := collector.held.length

/-- Whether enough pieces are held. -/
def isFull (collector : Collector) : Bool := collector.threshold.toNat ≤ collector.size

/-- The progress of the collector. -/
def progress (collector : Collector) : String :=
  progressMessage collector.size collector.threshold

/-- Takes a piece. One that is already held is accepted and changes nothing. -/
def collect (collector : Collector) (piece : KeyPiece) : Except CollectError Collector :=
  if piece.size ≠ rootKeyPieceSize then .error (.wrongSize piece.size)
  else if collector.isFull then .error (.alreadyFull collector.size)
  else if collector.held.any (·.sameAs piece) then .ok collector
  else .ok { collector with held := collector.held ++ [piece] }

/-- Rebuilds a key from the held pieces, without checking whether it is the right one. -/
def reconstruct (collector : Collector) : Except ReconstructError ByteString :=
  if collector.isFull then
    match KeyPiece.combine collector.held with
    | .ok key => .ok key
    | .error error => .error (.unusable error)
  else .error (.notReady collector.size collector.threshold)

/-- Drops every held piece. -/
def reset (collector : Collector) : Collector := { collector with held := [] }

end Collector

end KeyCustody

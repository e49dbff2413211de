import KeyCustody.Collector
import KeyCustody.DigestStore
import KeyCustody.Keystore

/-!
# Unsealing

The server starts sealed. Operators submit key pieces one by one; when enough are held, the key rebuilt
from them is checked against the recorded digest and loaded into the keystore. Every submission is
answered with the seal status and a message, never with an error. A submission is worked off in two
steps, because the recorded digest may have to be fetched in between: `Custody.submit` says what
happens before the fetch and `Custody.settle` what happens after it.
-/

namespace KeyCustody

/-- Whether the server is sealed. -/
inductive SealStatus where
  | locked
  | unlocked
deriving DecidableEq, Repr

/-- The word for a seal status. -/
def SealStatus.word : SealStatus → String
  | locked => "sealed"
  | unlocked => "unsealed"

/-- What became of a submission. -/
inductive UnsealOutcome where
  | unsealedPreviously
  | collectFailed
  | collecting (held : Nat) (threshold : UInt8)
  /-- The held pieces did not fit together and were dropped. -/
  | badPieces
  | validationError
  /-- The rebuilt key was not the recorded one, and the pieces were dropped. -/
  | badRootKey
  | storeError
  | unsealedNow
deriving DecidableEq, Repr

namespace UnsealOutcome

/-- The seal status that an outcome reports. -/
def status : UnsealOutcome → SealStatus
  | unsealedPreviously => .unlocked
  | unsealedNow => .unlocked
  | _ => .locked

/-- The message of an outcome. -/
def message : UnsealOutcome → String
  | unsealedPreviously => "unsealed previously"
  | collectFailed => "failed to collect provided key piece"
  | collecting held threshold => Collector.progressMessage held threshold
  | badPieces => "bad root key pieces collected; all key pieces wiped"
  | validationError => "internal error during root key validation"
  | badRootKey => "bad root key provided; all key pieces wiped"
  | storeError => "internal error during root key store"
  | unsealedNow => "unsealed now"

end UnsealOutcome

/-- The state that unsealing works on: the keystore and the collector. -/
structure Custody where
  /-- Holds the root key once unsealed. -/
  keystore : Keystore
  collector : Collector
deriving DecidableEq

/-- How far a submission has come. -/
inductive Submission where
  /-- It has been answered. -/
  | answered (outcome : UnsealOutcome) (custody : Custody)
  /-- A key was rebuilt and is to be checked against the recorded digest. -/
  | rebuilt (rootKey : ByteString) (custody : Custody)

namespace Custody

/-- The state of a server that has just started. -/
def start (threshold : UInt8) : Custody := ⟨Keystore.empty, Collector.empty threshold⟩

/-- The seal status. -/
def status (custody : Custody) : SealStatus :=
  if custody.keystore.isLoaded then .unlocked else .locked

/-- The state with every held piece dropped. -/
def dropPieces (custody : Custody) : Custody :=
  { custody with collector := custody.collector.reset }

/-- Rebuilds a key from the held pieces, if there are enough. -/
def rebuild (custody : Custody) : Submission :=
  match custody.collector.reconstruct with
  | .ok rootKey => .rebuilt rootKey custody
  | .error (.notReady held threshold) => .answered (.collecting held threshold) custody
  | .error (.unusable _) => .answered .badPieces custody.dropPieces

/-- Submits a piece, up to the point where the recorded digest is needed. A full collector does not
take the piece and goes on with those that it holds. -/
def submit (custody : Custody) (piece : KeyPiece) : Submission :=
  if custody.keystore.isLoaded then .answered .unsealedPreviously custody
  else
    match custody.collector.collect piece with
    | .ok collector => rebuild { custody with collector }
    | .error (.alreadyFull _) => rebuild custody
    | .error (.wrongSize _) => .answered .collectFailed custody

/-- Checks a rebuilt key against what the fetch of the recorded digest brought, and loads it. -/
def settle (custody : Custody) (rootKey : ByteString) (fetch : DigestFetch) :
    UnsealOutcome × Custody :=
  let keystore := match fetch.rivalKey with
    | some rivalKey => custody.keystore.loadIfEmpty rivalKey
    | none => custody.keystore
  let custody := { custody with keystore }
  match fetch.answer with
  | .error _ => (.validationError, custody)
  | .ok digest =>
    if RootKeyDigest.isOf digest.bytes rootKey then
      match custody.keystore.load rootKey with
      | .ok keystore => (.unsealedNow, { custody with keystore }.dropPieces)
      | .error _ => (.storeError, custody)
    else (.badRootKey, custody.dropPieces)

/-- Submits a piece, given what a fetch of the recorded digest would bring. -/
def unsealGiven (custody : Custody) (piece : KeyPiece) (fetch : DigestFetch) :
    UnsealOutcome × Custody :=
  match custody.submit piece with
  | .answered outcome after => (outcome, after)
  | .rebuilt rootKey after => after.settle rootKey fetch

/-- Submits a piece, fetching the recorded digest from the store if it is needed. -/
def unsealWith (custody : Custody) (piece : KeyPiece) (store : SharedStore) :
    UnsealOutcome × Custody × SharedStore :=
  match custody.submit piece with
  | .answered outcome after => (outcome, after, store)
  | .rebuilt rootKey after =>
    let (fetch, afterFetch) := store.fetchDigest
    let (outcome, settled) := after.settle rootKey fetch
    (outcome, settled, afterFetch)

end Custody

end KeyCustody

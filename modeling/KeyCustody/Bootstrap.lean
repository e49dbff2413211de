import KeyCustody.DigestStore
import KeyCustody.WrappedKey

/-!
# Bootstrapping the root key

A root key is made once: it is drawn, split, and its digest recorded with the sharing. The pieces are
handed out only if the record was written by this very call, so there are never pieces without a record
or two sets of pieces for one store.
-/

namespace KeyCustody

/-- The outcome of a bootstrap. -/
structure BootstrapOutcome (Supply : Type) where
  result : Except CustodyError (List KeyPiece)
  store : SharedStore
  /-- The random bytes that are left. -/
  supply : Supply
  /-- A root key that someone else loaded into the keystore meanwhile. -/
  rivalKey : Option ByteString

/-- The error when there is a root key already. -/
def alreadyInitialised : CustodyError := .conflict "root key already initialised"

variable {Supply : Type} [ByteSupply Supply]

/-- Draws a root key, splits it and records its digest. The pieces are handed out only if the store
reports the record as stored. -/
def makeRootKey (store : SharedStore) (sharing : Sharing) (supply : Supply)
    (rivalKey : Option ByteString) : BootstrapOutcome Supply :=
  let (rootKey, afterKey) := generateKey supply
  match KeyPiece.split rootKey sharing afterKey with
  | (.error error, afterSplit) =>
    ⟨.error (.invalidInput error.message), store, afterSplit, rivalKey⟩
  | (.ok pieces, afterSplit) =>
    let (outcome, afterStore) := store.store ⟨RootKeyDigest.ofKey rootKey, sharing⟩
    let result := match outcome with
      | .ok .stored => .ok pieces
      | .ok .alreadyThere => .error alreadyInitialised
      | .error error => .error error
    ⟨result, afterStore, afterSplit, rivalKey⟩

/-- Makes a root key unless one is recorded. Nothing is drawn when a record is found. -/
def bootstrap (store : SharedStore) (sharing : Sharing) (supply : Supply) :
    BootstrapOutcome Supply :=
  let (fetch, afterFetch) := store.fetchDigest
  match fetch.answer with
  | .ok _ => ⟨.error alreadyInitialised, afterFetch, supply, fetch.rivalKey⟩
  | .error (.notFound _) => makeRootKey afterFetch sharing supply fetch.rivalKey
  | .error error => ⟨.error error, afterFetch, supply, fetch.rivalKey⟩

end KeyCustody

import KeyCustody.CustodyError
import KeyCustody.WrappedKey

/-!
# The keystore

Holds the root key while the server is unsealed. A loaded key is never replaced: it has to be wiped
before another one can be loaded. Other keys are wrapped under the root key here, so it never leaves
except as a copy.
-/

namespace KeyCustody

/-- The root key, while one is loaded. -/
structure Keystore where
  rootKey : Option ByteString
deriving DecidableEq, Repr

/-- Why a keystore refuses an operation. -/
inductive KeystoreError where
  | alreadyLoaded
  | notLoaded
  | key (error : KeyError)
deriving DecidableEq, Repr

namespace KeystoreError

/-- The error as callers see it. -/
def toCustodyError : KeystoreError → CustodyError
  | alreadyLoaded => .conflict "root key already loaded"
  | notLoaded => .notReady "root key not loaded"
  | key error => .key error

end KeystoreError

namespace Keystore

/-- A keystore without a key. -/
def empty : Keystore := ⟨none⟩

/-- Whether a key is loaded. -/
def isLoaded (keystore : Keystore) : Bool := keystore.rootKey.isSome

/-- Loads a key. -/
def load (keystore : Keystore) (rootKey : ByteString) : Except KeystoreError Keystore :=
  match keystore.rootKey with
  | some _ => .error .alreadyLoaded
  | none => .ok ⟨some rootKey⟩

/-- The loaded key. -/
def get (keystore : Keystore) : Except KeystoreError ByteString :=
  match keystore.rootKey with
  | some rootKey => .ok rootKey
  | none => .error .notLoaded

/-- Releases the key. -/
def wipe (_ : Keystore) : Keystore := empty

/-- Loads a key unless one is loaded already. -/
def loadIfEmpty (keystore : Keystore) (rootKey : ByteString) : Keystore :=
  ⟨some (keystore.rootKey.getD rootKey)⟩

/-- Wraps a key under the root key. -/
def wrapWithRootKey {Supply : Type} [ByteSupply Supply] (keystore : Keystore) (key : ByteString)
    (supply : Supply) : Except KeystoreError WrappedKey × Supply :=
  match keystore.rootKey with
  | none => (.error .notLoaded, supply)
  | some rootKey =>
    match WrappedKey.wrap rootKey key supply with
    | (.ok wrapped, afterWrap) => (.ok wrapped, afterWrap)
    | (.error error, afterWrap) => (.error (.key error), afterWrap)

/-- Unwraps a key that was wrapped under the root key. -/
def unwrapWithRootKey (keystore : Keystore) (wrapped : WrappedKey) :
    Except KeystoreError ByteString :=
  match keystore.rootKey with
  | none => .error .notLoaded
  | some rootKey =>
    match wrapped.unwrap rootKey with
    | .ok key => .ok key
    | .error error => .error (.key error)

end Keystore

end KeyCustody

import KeyCustody.Hash.Sha256

/-!
# Root key digests

The root key itself is never stored. What is recorded is its SHA-256 digest, by which a key rebuilt
from pieces is recognised.
-/

namespace KeyCustody

/-- The number of bytes of a root key digest. -/
def digestSize : Nat := 32

/-- A root key digest: 32 bytes. -/
structure RootKeyDigest where
  bytes : ByteString
  length_bytes : bytes.length = digestSize
deriving DecidableEq

namespace RootKeyDigest

/-- The digest of a root key. -/
def ofKey (rootKey : ByteString) : RootKeyDigest :=
  ⟨Sha256.digest rootKey, Sha256.length_digest rootKey⟩

/-- The digest that consists of the given bytes, if their number is right. -/
def ofBytes? (bytes : ByteString) : Option RootKeyDigest :=
  if length : bytes.length = digestSize then some ⟨bytes, length⟩ else none

/-- Whether the bytes are the digest of a root key. -/
def isOf (expected rootKey : ByteString) : Bool :=
  (ofKey rootKey).bytes == expected

theorem ofBytes?_bytes (digest : RootKeyDigest) : ofBytes? digest.bytes = some digest := by
  simp [ofBytes?, digest.length_bytes]

end RootKeyDigest

end KeyCustody

import KeyCustody.CustodyError
import KeyCustody.DigestTable
import KeyCustody.KeyPiece.Split
import KeyCustody.RootKeyDigest

/-!
# Digest stores

A digest store keeps one record, the root key digest with the sharing, which is written once and never
replaced. It lives either in memory or in the database. A shared store is one that others use at the
same time and that may be out of reach: it says what its next calls will run into.
-/

namespace KeyCustody

/-- What is recorded about a root key. -/
structure DigestRecord where
  digest : RootKeyDigest
  sharing : Sharing
deriving DecidableEq

/-- What became of a record that was to be stored. -/
inductive StoreOutcome where
  | stored
  | alreadyThere
deriving DecidableEq, Repr

/-- A store of the digest record. -/
inductive DigestStore where
  | memory (record : Option DigestRecord)
  | database (base : Database)
deriving DecidableEq

namespace DigestStore

/-- The error when no digest is recorded. -/
def noDigest : CustodyError := .notFound "root key digest"

/-- The error when no sharing is recorded. -/
def noSharing : CustodyError := .notFound "root key sharing parameters"

/-- The number below 256 that a stored number is, if it is one. -/
def byte? (number : Int) : Option UInt8 :=
  if 0 ≤ number ∧ number ≤ 255 then some number.toNat.toUInt8 else none

/-- The digest of a row. -/
def rowDigest (row : DigestRow) : Except CustodyError RootKeyDigest :=
  match RootKeyDigest.ofBytes? row.digest with
  | some digest => .ok digest
  | none =>
    .error (.internal
      s!"stored root key digest has length {row.digest.length}, expected {digestSize}")

/-- The sharing of a row. -/
def rowSharing (row : DigestRow) : Except CustodyError Sharing :=
  match byte? row.total, byte? row.threshold with
  | some total, some threshold => .ok ⟨total, threshold⟩
  | _, _ =>
    .error (.internal
      s!"stored sharing parameters out of range: {row.threshold} of {row.total}")

/-- Stores a record unless there is one. -/
def store (digests : DigestStore) (record : DigestRecord) :
    Except CustodyError StoreOutcome × DigestStore :=
  match digests with
  | memory (some held) => (.ok .alreadyThere, memory (some held))
  | memory none => (.ok .stored, memory (some record))
  | database base =>
    match base.insert record.digest.bytes record.sharing.total record.sharing.threshold with
    | (.ok .inserted, after) => (.ok .stored, .database after)
    | (.ok .alreadyExists, after) => (.ok .alreadyThere, .database after)
    | (.error error, after) => (.error (.database error), .database after)

/-- The recorded digest. -/
def digest (digests : DigestStore) : Except CustodyError RootKeyDigest :=
  match digests with
  | memory (some record) => .ok record.digest
  | memory none => .error noDigest
  | database base =>
    match base.row with
    | .error error => .error (.database error)
    | .ok none => .error noDigest
    | .ok (some row) => rowDigest row

/-- The recorded sharing. -/
def sharing (digests : DigestStore) : Except CustodyError Sharing :=
  match digests with
  | memory (some record) => .ok record.sharing
  | memory none => .error noSharing
  | database base =>
    match base.row with
    | .error error => .error (.database error)
    | .ok none => .error noSharing
    | .ok (some row) => rowSharing row

end DigestStore

/-- What a fetch of the recorded digest brings: the answer, and the root key that someone else loaded
into the keystore while it was under way, if that happened. -/
structure DigestFetch where
  answer : Except CustodyError RootKeyDigest
  rivalKey : Option ByteString

/-- A digest store that others use too. -/
structure SharedStore where
  digests : DigestStore
  /-- Whether the store is out of reach, so that every call fails. -/
  isOffline : Bool
  /-- A root key that someone else will load into the keystore during the next fetch of the digest. -/
  rivalKey : Option ByteString
  /-- A record that someone else will store just before the next call that stores one. -/
  rivalRecord : Option DigestRecord

namespace SharedStore

/-- A store that nobody else uses and that is within reach. -/
def ofStore (digests : DigestStore) : SharedStore := ⟨digests, false, none, none⟩

/-- The error of a store out of reach. -/
def unreachable : CustodyError := .internal "store offline"

/-- Fetches the recorded digest. -/
def fetchDigest (shared : SharedStore) : DigestFetch × SharedStore :=
  if shared.isOffline then (⟨.error unreachable, none⟩, shared)
  else (⟨shared.digests.digest, shared.rivalKey⟩, { shared with rivalKey := none })

/-- Fetches the recorded sharing. -/
def fetchSharing (shared : SharedStore) : Except CustodyError Sharing :=
  if shared.isOffline then .error unreachable else shared.digests.sharing

/-- Stores the record of someone else, if there is one to come. -/
def admitRival (shared : SharedStore) : Except CustodyError Unit × SharedStore :=
  match shared.rivalRecord with
  | none => (.ok (), shared)
  | some record =>
    match shared.digests.store record with
    | (.ok _, digests) => (.ok (), { shared with digests, rivalRecord := none })
    | (.error error, digests) => (.error error, { shared with digests, rivalRecord := none })

/-- Stores a record unless there is one. -/
def store (shared : SharedStore) (record : DigestRecord) :
    Except CustodyError StoreOutcome × SharedStore :=
  if shared.isOffline then (.error unreachable, shared)
  else
    match shared.admitRival with
    | (.error error, after) => (.error error, after)
    | (.ok (), after) =>
      let (outcome, digests) := after.digests.store record
      (outcome, { after with digests })

end SharedStore

end KeyCustody

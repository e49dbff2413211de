import KeyCustody.Proofs.Custody.Liveness

/-!
# Stores in memory and in a database are interchangeable

A store in memory and one in a migrated database that keep the same record are twins. Whatever they
are asked for, they answer alike and are twins again, and a bootstrap draws the same random bytes. So
nobody who starts with an empty one of either kind can tell which one it is.
-/

namespace KeyCustody

namespace DigestStore

/-- What a store can be asked for, and the migration of its database at any time. -/
inductive Request where
  | store (record : DigestRecord)
  | digest
  | sharing
  | bootstrap (sharing : Sharing)
  | migrate

/-- A record to be stored comes with a sharing by which a key can be split. A bootstrap may be asked
for with any numbers. -/
def Request.IsSensible : Request → Prop
  | store record =>
    2 ≤ record.sharing.threshold ∧ record.sharing.threshold ≤ record.sharing.total
  | _ => True

inductive Answer where
  | store (outcome : Except CustodyError StoreOutcome)
  | digest (read : Except CustodyError RootKeyDigest)
  | sharing (read : Except CustodyError Sharing)
  | bootstrap (result : Except CustodyError (List KeyPiece))
  | migrate (outcome : Except DatabaseError Unit)
deriving DecidableEq

/-- Migrates the database. There is nothing to migrate in memory. -/
def migrate : DigestStore → Except DatabaseError Unit × DigestStore
  | memory record => (.ok (), memory record)
  | database base => (base.migrate.1, database base.migrate.2)

/-- A store in memory and a migrated database that keep the same record, or none. -/
inductive Twins : DigestStore → DigestStore → Prop where
  | keeping (record : Option DigestRecord) :
      Twins (memory record) (database ⟨some ⟨true, record.map rowOf⟩, true, false⟩)

/-- What two stores give back is the same, and they are twins afterwards. -/
structure Alike {Value : Type} (left right : Value × DigestStore) : Prop where
  answer_eq : left.1 = right.1
  twins : Twins left.2 right.2

theorem twins_migrate_fresh : Twins (memory none) (database Database.fresh.migrate.2) :=
  .keeping none

section

variable {left right : DigestStore}

theorem Twins.digest_eq (twins : Twins left right) : left.digest = right.digest := by
  cases twins with
  | keeping record =>
      cases record with
      | none => rfl
      | some record => exact (rowDigest_rowOf record).symm

theorem Twins.sharing_eq (twins : Twins left right) : left.sharing = right.sharing := by
  cases twins with
  | keeping record =>
      cases record with
      | none => rfl
      | some record => exact (rowSharing_rowOf record).symm

theorem Twins.migrate (twins : Twins left right) : Alike left.migrate right.migrate := by
  cases twins with
  | keeping record => exact ⟨rfl, .keeping record⟩

theorem Twins.store (twins : Twins left right) {record : DigestRecord}
    (two_le : 2 ≤ record.sharing.threshold)
    (le_total : record.sharing.threshold ≤ record.sharing.total) :
    Alike (left.store record) (right.store record) := by
  cases twins with
  | keeping held =>
      rw [store_database rfl rfl rfl two_le le_total]
      cases held with
      | none => exact ⟨rfl, .keeping (some record)⟩
      | some held => exact ⟨rfl, .keeping (some held)⟩

end

end DigestStore

namespace SharedStore

theorem fetchDigest_ofStore (digests : DigestStore) :
    (ofStore digests).fetchDigest = (⟨digests.digest, none⟩, ofStore digests) :=
  rfl

theorem store_ofStore (digests : DigestStore) (record : DigestRecord) :
    (ofStore digests).store record = ((digests.store record).1, ofStore (digests.store record).2) :=
  rfl

end SharedStore

namespace DigestStore

variable {Supply : Type} [ByteSupply Supply]

structure BootstrapsAlike (left right : BootstrapOutcome Supply) : Prop where
  result_eq : left.result = right.result
  supply_eq : left.supply = right.supply
  twins : Twins left.store.digests right.store.digests

/-- A bootstrap stores a record only with a sharing by which it has split the key. -/
theorem Twins.makeRootKey {left right : DigestStore} (twins : Twins left right) (sharing : Sharing)
    (supply : Supply) :
    BootstrapsAlike (makeRootKey (.ofStore left) sharing supply none)
      (makeRootKey (.ofStore right) sharing supply none) := by
  unfold KeyCustody.makeRootKey
  dsimp only
  generalize split_eq : KeyPiece.split (generateKey supply).1 sharing (generateKey supply).2 =
    outcome
  rcases outcome with ⟨error | pieces, afterSplit⟩
  · exact ⟨rfl, rfl, twins⟩
  · rcases KeyPiece.admissible_of_split (congrArg Prod.fst split_eq) with ⟨_, two_le, le_total⟩
    have alike : Alike (left.store ⟨.ofKey (generateKey supply).1, sharing⟩)
        (right.store ⟨.ofKey (generateKey supply).1, sharing⟩) := twins.store two_le le_total
    simp only [SharedStore.store_ofStore, alike.answer_eq]
    exact ⟨rfl, rfl, alike.twins⟩

theorem Twins.bootstrap {left right : DigestStore} (twins : Twins left right) (sharing : Sharing)
    (supply : Supply) :
    BootstrapsAlike (bootstrap (.ofStore left) sharing supply)
      (bootstrap (.ofStore right) sharing supply) := by
  simp only [KeyCustody.bootstrap, SharedStore.fetchDigest_ofStore, twins.digest_eq]
  split
  · exact ⟨rfl, rfl, twins⟩
  · exact twins.makeRootKey sharing supply
  · exact ⟨rfl, rfl, twins⟩

/-- A store in use, with the random bytes from which root keys are drawn. -/
structure InUse (Supply : Type) where
  digests : DigestStore
  supply : Supply

namespace InUse

/-- The answer to a request, and the store after it. -/
def serve (inUse : InUse Supply) : Request → Answer × InUse Supply
  | .store record =>
    let (outcome, digests) := inUse.digests.store record
    (.store outcome, { inUse with digests })
  | .digest => (.digest inUse.digests.digest, inUse)
  | .sharing => (.sharing inUse.digests.sharing, inUse)
  | .bootstrap sharing =>
    let outcome := KeyCustody.bootstrap (.ofStore inUse.digests) sharing inUse.supply
    (.bootstrap outcome.result, ⟨outcome.store.digests, outcome.supply⟩)
  | .migrate =>
    let (outcome, digests) := inUse.digests.migrate
    (.migrate outcome, { inUse with digests })

/-- The answers to requests, one after the other. -/
def answers (inUse : InUse Supply) : List Request → List Answer
  | [] => []
  | request :: rest => (inUse.serve request).1 :: (inUse.serve request).2.answers rest

/-- Twins in use with the same random bytes. -/
structure Twins (left right : InUse Supply) : Prop where
  digests : left.digests.Twins right.digests
  supply_eq : left.supply = right.supply

theorem Twins.serve {left right : InUse Supply} (twins : Twins left right) {request : Request}
    (sensible : request.IsSensible) :
    (left.serve request).1 = (right.serve request).1 ∧
      Twins (left.serve request).2 (right.serve request).2 := by
  cases request with
  | store record =>
      have alike := twins.digests.store sensible.1 sensible.2
      exact ⟨congrArg Answer.store alike.answer_eq, alike.twins, twins.supply_eq⟩
  | digest => exact ⟨congrArg Answer.digest twins.digests.digest_eq, twins⟩
  | sharing => exact ⟨congrArg Answer.sharing twins.digests.sharing_eq, twins⟩
  | bootstrap sharing =>
      have alike := twins.digests.bootstrap sharing right.supply
      simp only [InUse.serve, twins.supply_eq]
      exact ⟨congrArg Answer.bootstrap alike.result_eq, alike.twins, alike.supply_eq⟩
  | migrate =>
      have alike := twins.digests.migrate
      exact ⟨congrArg Answer.migrate alike.answer_eq, alike.twins, twins.supply_eq⟩

theorem Twins.answers_eq {left right : InUse Supply} (twins : Twins left right)
    {requests : List Request} (sensible : ∀ request ∈ requests, request.IsSensible) :
    left.answers requests = right.answers requests := by
  induction requests generalizing left right with
  | nil => rfl
  | cons request rest ih =>
      rcases twins.serve (sensible request List.mem_cons_self) with ⟨answer_eq, after⟩
      have rest_sensible : ∀ request ∈ rest, request.IsSensible := fun other other_mem =>
        sensible other (List.mem_cons_of_mem request other_mem)
      rw [InUse.answers, InUse.answers, answer_eq, ih after rest_sensible]

end InUse

/-- An empty store in memory and a freshly migrated database give the same answers to all requests,
with the same random bytes. -/
theorem memory_and_database_alike (supply : Supply) {requests : List Request}
    (sensible : ∀ request ∈ requests, request.IsSensible) :
    InUse.answers ⟨memory none, supply⟩ requests =
      InUse.answers ⟨database Database.fresh.migrate.2, supply⟩ requests := by
  have twins : InUse.Twins (⟨memory none, supply⟩ : InUse Supply)
      ⟨database Database.fresh.migrate.2, supply⟩ := ⟨twins_migrate_fresh, rfl⟩
  exact twins.answers_eq sensible

/-- The database says of a second record that there is one already, and keeps the first. -/
theorem memory_and_database_alike_after_first :
    let first : DigestRecord := ⟨⟨List.replicate 32 1, rfl⟩, ⟨5, 3⟩⟩
    let second : DigestRecord := ⟨⟨List.replicate 32 2, rfl⟩, ⟨3, 2⟩⟩
    let requests : List Request :=
      [.sharing, .bootstrap ⟨2, 3⟩, .store first, .migrate, .store second, .bootstrap ⟨3, 2⟩,
        .digest, .sharing]
    InUse.answers ⟨database Database.fresh.migrate.2, (⟨[7]⟩ : ByteTape)⟩ requests =
      [.sharing (.error noSharing),
        .bootstrap (.error (.invalidInput "threshold (3) cannot exceed total key pieces (2)")),
        .store (.ok .stored), .migrate (.ok ()), .store (.ok .alreadyThere),
        .bootstrap (.error alreadyInitialised), .digest (.ok first.digest),
        .sharing (.ok first.sharing)] := by
  intro first second requests
  have sensible : ∀ request ∈ requests, request.IsSensible := by
    simp [requests, Request.IsSensible, first, second]
  exact (memory_and_database_alike (⟨[7]⟩ : ByteTape) sensible).symm.trans rfl

end DigestStore

end KeyCustody

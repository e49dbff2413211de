import KeyCustody.Bootstrap
import KeyCustody.Proofs.KeyPiece.Recovery
import KeyCustody.Service.Server

/-!
# Bootstrapping an empty store

A store is empty when it can be written and holds no record: a fresh one in memory, or a migrated
database without a row. Bootstrapping such a store deals the pieces of a new root key and records its
digest with the sharing, and a server started on the store afterwards takes the recorded threshold.
-/

namespace KeyCustody

namespace DigestStore

/-- A store that can be written and holds no record. -/
def IsEmpty : DigestStore → Prop
  | memory record => record = none
  | database base =>
    base.isOpen = true ∧ base.isReadOnly = false ∧ ∃ isConditional,
      base.table = some ⟨isConditional, none⟩

/-- A store that holds a record. -/
structure Holds (digests : DigestStore) (record : DigestRecord) : Prop where
  digest_eq : digests.digest = .ok record.digest
  sharing_eq : digests.sharing = .ok record.sharing

/-- Migrating a fresh database gives an empty store. -/
theorem isEmpty_migrate_fresh : (database Database.fresh.migrate.2).IsEmpty :=
  ⟨rfl, rfl, true, rfl⟩

theorem digest_of_isEmpty {digests : DigestStore} (empty : digests.IsEmpty) :
    digests.digest = .error noDigest := by
  cases digests with
  | memory record =>
      subst empty
      rfl
  | database base =>
      rcases empty with ⟨isOpen, _, isConditional, table_eq⟩
      simp [digest, Database.row, Database.reach, isOpen, table_eq]

/-- A number below 256 is read back from the database. -/
theorem byte?_toNat (byte : UInt8) : byte? (byte.toNat : Int) = some byte := by
  have small : byte.toNat < 256 := byte.toNat_lt
  rw [byte?, if_pos (by omega)]
  simp

/-- The row by which the database keeps a record. -/
def rowOf (record : DigestRecord) : DigestRow :=
  ⟨record.digest.bytes, record.sharing.total.toNat, record.sharing.threshold.toNat⟩

theorem rowDigest_rowOf (record : DigestRecord) : rowDigest (rowOf record) = .ok record.digest := by
  rw [rowDigest, rowOf, RootKeyDigest.ofBytes?_bytes]

theorem rowSharing_rowOf (record : DigestRecord) :
    rowSharing (rowOf record) = .ok record.sharing := by
  rw [rowSharing, rowOf, byte?_toNat, byte?_toNat]

/-- The row of a sensible sharing breaks none of the conditions of the digest table. -/
theorem broken?_rowOf {record : DigestRecord} (two_le : 2 ≤ record.sharing.threshold)
    (le_total : record.sharing.threshold ≤ record.sharing.total) :
    (rowOf record).broken? = none := by
  have length_eq : (rowOf record).digest.length = 32 := record.digest.length_bytes
  have two_le_toNat : 2 ≤ record.sharing.threshold.toNat := two_le
  have le_total_toNat : record.sharing.threshold.toNat ≤ record.sharing.total.toNat := le_total
  have total_lt : record.sharing.total.toNat < 256 := record.sharing.total.toNat_lt
  have totalInRange : ¬((rowOf record).total < 2 ∨ 255 < (rowOf record).total) := by
    dsimp only [rowOf]
    omega
  have thresholdInRange :
      ¬((rowOf record).threshold < 2 ∨ (rowOf record).total < (rowOf record).threshold) := by
    dsimp only [rowOf]
    omega
  rw [DigestRow.broken?, if_neg (not_not_intro length_eq), if_neg totalInRange,
    if_neg thresholdInRange]

/-- A database that can be written takes a record with a sensible sharing if it has no row. Otherwise
the engine says that there is one already, since the row breaks no condition. -/
theorem store_database {base : Database} {isConditional : Bool} {held : Option DigestRow}
    (isOpen : base.isOpen = true) (isReadOnly : base.isReadOnly = false)
    (table_eq : base.table = some ⟨isConditional, held⟩) {record : DigestRecord}
    (two_le : 2 ≤ record.sharing.threshold)
    (le_total : record.sharing.threshold ≤ record.sharing.total) :
    (database base).store record =
      match held with
      | none =>
        (.ok .stored, database { base with table := some ⟨isConditional, some (rowOf record)⟩ })
      | some _ => (.ok .alreadyThere, database base) := by
  have reached : base.reachForWriting = .ok ⟨isConditional, held⟩ := by
    simp [Database.reachForWriting, Database.reach, isOpen, isReadOnly, table_eq]
  have unbroken : (rowOf record).broken? = none := broken?_rowOf two_le le_total
  rw [store, Database.insert, reached, ← rowOf]
  cases held with
  | none => simp [DigestTable.insert, unbroken]
  | some row => simp [DigestTable.insert, unbroken, DatabaseFault.isRepeatedRow_repeatedRow]

/-- An empty store takes a record with a sensible sharing, and holds it then. -/
theorem exists_store_of_isEmpty {digests : DigestStore} (empty : digests.IsEmpty)
    {record : DigestRecord} (two_le : 2 ≤ record.sharing.threshold)
    (le_total : record.sharing.threshold ≤ record.sharing.total) :
    ∃ after, digests.store record = (.ok .stored, after) ∧ after.Holds record := by
  cases digests with
  | memory held =>
      subst empty
      exact ⟨_, rfl, rfl, rfl⟩
  | database base =>
      rcases empty with ⟨isOpen, isReadOnly, isConditional, table_eq⟩
      refine ⟨_, store_database isOpen isReadOnly table_eq two_le le_total, ?_, ?_⟩
      · simp [digest, Database.row, Database.reach, isOpen, rowDigest_rowOf]
      · simp [sharing, Database.row, Database.reach, isOpen, rowSharing_rowOf]

end DigestStore

/-- Pieces of a root key as they are dealt to their holders. -/
structure KeyPiece.Dealt (pieces : List KeyPiece) (sharing : Sharing) (rootKey : ByteString) :
    Prop where
  length_eq : pieces.length = sharing.total.toNat
  nodup : pieces.Nodup
  size_eq : ∀ piece ∈ pieces, piece.size = rootKeyPieceSize
  /-- Any threshold of them, in any order, give the root key. -/
  recover : ∀ chosen : List KeyPiece, chosen.Nodup → (∀ piece ∈ chosen, piece ∈ pieces) →
    sharing.threshold.toNat ≤ chosen.length → combine chosen = .ok rootKey

namespace KeyPiece

variable {pieces : List KeyPiece} {sharing : Sharing} {rootKey : ByteString}

theorem Dealt.threshold_pos (dealt : Dealt pieces sharing rootKey) :
    0 < sharing.threshold.toNat := by
  by_contra zero
  have recovered : combine [] = .ok rootKey :=
    dealt.recover [] List.nodup_nil (by simp) (by omega)
  cases recovered

/-- More pieces than needed are enough too. -/
theorem Dealt.mono (dealt : Dealt pieces sharing rootKey) {threshold : UInt8}
    (le : sharing.threshold ≤ threshold) : Dealt pieces { sharing with threshold } rootKey where
  length_eq := dealt.length_eq
  nodup := dealt.nodup
  size_eq := dealt.size_eq
  recover chosen nodup chosen_subset enough :=
    dealt.recover chosen nodup chosen_subset (Nat.le_trans le enough)

end KeyPiece

variable {Supply : Type} [ByteSupply Supply]

theorem KeyPiece.exists_dealt_split {rootKey : ByteString} {sharing : Sharing}
    (length_eq : rootKey.length = keySize) (two_le : 2 ≤ sharing.threshold)
    (le_total : sharing.threshold ≤ sharing.total) (supply : Supply) :
    ∃ pieces after, split rootKey sharing supply = (.ok pieces, after) ∧
      Dealt pieces sharing rootKey := by
  have nonempty : rootKey ≠ [] := by
    rintro rfl
    cases length_eq
  have two_le_toNat : 2 ≤ sharing.threshold.toNat := two_le
  refine ⟨_, _, split_eq nonempty two_le le_total supply, length_piecesOf _, nodup_piecesOf _,
    ?_, ?_⟩
  · intro piece piece_mem
    rw [size_eq, length_data_of_mem_piecesOf piece_mem]
    simp [coefficientRows, length_eq, rootKeyPieceSize]
  · intro chosen nodup chosen_subset enough
    apply combine_of_subset_piecesOf nodup chosen_subset
    · omega
    · omega

/-- Bootstrapping an empty store deals the pieces of the key drawn first and records its digest. -/
theorem exists_bootstrap_of_isEmpty {digests : DigestStore} {sharing : Sharing}
    (empty : digests.IsEmpty) (two_le : 2 ≤ sharing.threshold)
    (le_total : sharing.threshold ≤ sharing.total) (supply : Supply) :
    ∃ pieces after, (bootstrap (.ofStore digests) sharing supply).result = .ok pieces ∧
      (bootstrap (.ofStore digests) sharing supply).store = .ofStore after ∧
      KeyPiece.Dealt pieces sharing (generateKey supply).1 ∧
      after.Holds ⟨RootKeyDigest.ofKey (generateKey supply).1, sharing⟩ := by
  have length_eq : (generateKey supply).1.length = keySize := ByteSupply.length_draw _ _
  rcases KeyPiece.exists_dealt_split length_eq two_le le_total (generateKey supply).2 with
    ⟨pieces, afterSplit, split_eq, dealt⟩
  let record : DigestRecord := ⟨RootKeyDigest.ofKey (generateKey supply).1, sharing⟩
  have storable : ∃ after, digests.store record = (.ok .stored, after) ∧ after.Holds record :=
    DigestStore.exists_store_of_isEmpty empty two_le le_total
  rcases storable with ⟨after, store_eq, holds⟩
  have bootstrap_eq : bootstrap (.ofStore digests) sharing supply =
      ⟨.ok pieces, .ofStore after, afterSplit, none⟩ := by
    simp [bootstrap, makeRootKey, SharedStore.fetchDigest, SharedStore.ofStore,
      DigestStore.noDigest, DigestStore.digest_of_isEmpty empty, split_eq, SharedStore.store,
      SharedStore.admitRival, record, store_eq]
  rw [bootstrap_eq]
  exact ⟨pieces, after, rfl, rfl, dealt, holds⟩

/-- A server takes the threshold from the store that holds a record, whatever is configured. -/
theorem Server.start_of_holds {digests : DigestStore} {record : DigestRecord}
    (holds : digests.Holds record) (configured : UInt8) (allowList : List String) :
    ∃ server, Server.start configured allowList (.ofStore digests) = .ok server ∧
      server.custody = Custody.start record.sharing.threshold := by
  have fetched : (SharedStore.ofStore digests).fetchSharing = .ok record.sharing :=
    holds.sharing_eq
  rw [Server.start, fetched]
  exact ⟨_, rfl, rfl⟩

end KeyCustody

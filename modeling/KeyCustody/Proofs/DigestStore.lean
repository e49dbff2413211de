import KeyCustody.Proofs.Bootstrap

/-!
# A digest store is written once

A store has a row or none, whether or not it can be read at the moment. Storing a record either is
reported as done, and then the store had no row before, or it leaves the store as it was. So a row, once
there, stays, and whatever is read from then on is what it says.
-/

namespace KeyCustody

/-- A row is written only to a table that has none. -/
theorem DigestTable.of_insert {table written : DigestTable} {row : DigestRow}
    (happened : table.insert row = .ok written) :
    table.row = none ∧ written = { table with row := some row } := by
  unfold insert at happened
  split at happened
  · cases happened
  · split at happened
    · cases happened
    · rename_i row_eq
      exact ⟨row_eq, (Except.ok.inj happened).symm⟩

namespace Database

theorem of_reachForWriting {base : Database} {table : DigestTable}
    (reached : base.reachForWriting = .ok table) : base.isOpen = true ∧ base.table = some table := by
  unfold reachForWriting reach at reached
  cases isOpen : base.isOpen with
  | false => simp [isOpen] at reached
  | true =>
      cases table_eq : base.table with
      | none => simp [isOpen, table_eq] at reached
      | some held =>
          cases isReadOnly : base.isReadOnly with
          | false => simpa [isOpen, table_eq, isReadOnly] using reached
          | true => simp [isOpen, table_eq, isReadOnly] at reached

/-- What inserting a row does: the answer, and the database after it. -/
inductive Inserting (base : Database) (row : DigestRow) :
    Except DatabaseError InsertOutcome → Database → Prop where
  | inserted {isConditional : Bool} (isOpen : base.isOpen = true)
      (table_eq : base.table = some ⟨isConditional, none⟩) :
      Inserting base row (.ok .inserted) { base with table := some ⟨isConditional, some row⟩ }
  | refused {answer : Except DatabaseError InsertOutcome} (notInserted : answer ≠ .ok .inserted) :
      Inserting base row answer base

theorem inserting_insert (base : Database) (digest : ByteString) (total threshold : UInt8) :
    Inserting base ⟨digest, total.toNat, threshold.toNat⟩ (base.insert digest total threshold).1
      (base.insert digest total threshold).2 := by
  unfold insert
  cases reached : base.reachForWriting with
  | error fault => exact .refused (by simp)
  | ok table =>
      rcases of_reachForWriting reached with ⟨isOpen, table_eq⟩
      dsimp only
      split
      · rename_i written happened
        rcases DigestTable.of_insert happened with ⟨row_eq, rfl⟩
        rcases table with ⟨isConditional, held⟩
        subst row_eq
        exact .inserted isOpen table_eq
      · split <;> exact .refused (by simp)

end Database

namespace DigestStore

/-- The row that a store has, in a database or as the record in memory would be written to one. -/
def row? : DigestStore → Option DigestRow
  | memory record => record.map rowOf
  | database base => base.table.bind DigestTable.row

/-- A row that can be read is the one that the database has. -/
theorem bind_of_row {base : Database} {row : Option DigestRow} (read : base.row = .ok row) :
    base.table.bind DigestTable.row = row := by
  unfold Database.row Database.reach at read
  cases isOpen : base.isOpen with
  | false => simp [isOpen] at read
  | true =>
      cases table_eq : base.table with
      | none => simp [isOpen, table_eq] at read
      | some table => simpa [isOpen, table_eq] using read

theorem rowOf_injective : Function.Injective rowOf := by
  intro left right same
  have digest_eq : left.digest = right.digest := by
    have read := rowDigest_rowOf left
    rw [same, rowDigest_rowOf] at read
    exact (Except.ok.inj read).symm
  have sharing_eq : left.sharing = right.sharing := by
    have read := rowSharing_rowOf left
    rw [same, rowSharing_rowOf] at read
    exact (Except.ok.inj read).symm
  cases left
  cases right
  cases digest_eq
  cases sharing_eq
  rfl

/-- What storing a record does: the answer, and the store after it. -/
inductive Storing (digests : DigestStore) (record : DigestRecord) :
    Except CustodyError StoreOutcome → DigestStore → Prop where
  | stored {after : DigestStore} (empty : digests.row? = none)
      (row_eq : after.row? = some (rowOf record)) (holds : after.Holds record) :
      Storing digests record (.ok .stored) after
  | refused {answer : Except CustodyError StoreOutcome} (notStored : answer ≠ .ok .stored) :
      Storing digests record answer digests

theorem storing_store (digests : DigestStore) (record : DigestRecord) :
    Storing digests record (digests.store record).1 (digests.store record).2 := by
  cases digests with
  | memory held =>
      cases held with
      | none => exact .stored rfl rfl ⟨rfl, rfl⟩
      | some held => exact .refused (by simp [store])
  | database base =>
      have inserting : base.Inserting (rowOf record) _ _ := base.inserting_insert
        record.digest.bytes record.sharing.total record.sharing.threshold
      rw [store]
      generalize base.insert record.digest.bytes record.sharing.total record.sharing.threshold =
        outcome at inserting ⊢
      rcases outcome with ⟨answer, after⟩
      cases inserting with
      | @inserted isConditional isOpen table_eq =>
          refine .stored ?_ rfl ⟨?_, ?_⟩
          · simp [row?, table_eq]
          · simp [digest, Database.row, Database.reach, isOpen, rowDigest_rowOf]
          · simp [sharing, Database.row, Database.reach, isOpen, rowSharing_rowOf]
      | refused notInserted =>
          rcases answer with error | ⟨_ | _⟩
          · exact .refused (by simp)
          · exact absurd rfl notInserted
          · exact .refused (by simp)

variable {digests : DigestStore} {record : DigestRecord}

/-- A store with the row of a record gives this record or cannot be read. -/
theorem holds_or_unreadable (row_eq : digests.row? = some (rowOf record)) :
    digests.Holds record ∨
      ∃ error, digests.digest = .error error ∧ digests.sharing = .error error := by
  cases digests with
  | memory held =>
      rcases Option.map_eq_some_iff.mp row_eq with ⟨same, rfl, same_eq⟩
      cases rowOf_injective same_eq
      exact Or.inl ⟨rfl, rfl⟩
  | database base =>
      cases row_read : base.row with
      | error fault =>
          refine Or.inr ⟨.database fault, ?_, ?_⟩
          · simp only [digest, row_read]
          · simp only [sharing, row_read]
      | ok row =>
          cases (bind_of_row row_read).symm.trans row_eq
          refine Or.inl ⟨?_, ?_⟩
          · simp only [digest, row_read, rowDigest_rowOf]
          · simp only [sharing, row_read, rowSharing_rowOf]

/-- A store that says that no digest is recorded has no row. -/
theorem of_notFound {what : String} (read : digests.digest = .error (.notFound what)) :
    .notFound what = noDigest ∧ digests.row? = none := by
  cases digests with
  | memory held =>
      cases held with
      | none => exact ⟨(Except.error.inj read).symm, rfl⟩
      | some held => cases read
  | database base =>
      unfold DigestStore.digest at read
      cases row_read : base.row with
      | error fault => simp [row_read] at read
      | ok row =>
          cases row with
          | none =>
              simp only [row_read] at read
              exact ⟨(Except.error.inj read).symm, bind_of_row row_read⟩
          | some row =>
              simp only [row_read, rowDigest] at read
              split at read <;> cases read

/-- A store without a row gives no sharing. -/
theorem sharing_ne_ok_of_empty (empty : digests.row? = none) (sharing : Sharing) :
    digests.sharing ≠ .ok sharing := by
  cases digests with
  | memory held =>
      rw [Option.map_eq_none_iff.mp empty, DigestStore.sharing]
      simp
  | database base =>
      unfold DigestStore.sharing
      cases row_read : base.row with
      | error fault => simp [row_read]
      | ok row =>
          cases (bind_of_row row_read).symm.trans empty
          simp [row_read]

/-- A store that says that no sharing is recorded has no row. -/
theorem row?_of_noSharing {what : String} (read : digests.sharing = .error (.notFound what)) :
    digests.row? = none := by
  cases digests with
  | memory held =>
      cases held with
      | none => rfl
      | some held => cases read
  | database base =>
      unfold DigestStore.sharing at read
      cases row_read : base.row with
      | error fault => simp [row_read] at read
      | ok row =>
          cases row with
          | none => exact bind_of_row row_read
          | some row =>
              simp only [row_read, rowSharing] at read
              split at read <;> cases read

end DigestStore

end KeyCustody

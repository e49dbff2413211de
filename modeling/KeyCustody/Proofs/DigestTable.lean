import KeyCustody.Proofs.DigestStore.StoredRow

/-!
# The digest table is written once

A fresh database is migrated, given rows and read, in any order and any number of times. What it holds
follows from what it was asked for: no table before the first migration, and afterwards the first row
given since then that meets the conditions of the table. Neither a later row nor another migration
changes it.
-/

namespace KeyCustody

namespace Database

/-- What a database is asked for. -/
inductive Request where
  | migrate
  | insert (digest : ByteString) (total threshold : UInt8)
  | fetchDigest
  | fetchSharing
deriving DecidableEq

inductive Answer where
  | migration (outcome : Except DatabaseError Unit)
  | insertion (outcome : Except DatabaseError InsertOutcome)
  | digest (read : Except DatabaseError (Option ByteString))
  | sharing (read : Except DatabaseError (Option (Int × Int)))

/-- The answer of a request that fails. -/
def Request.failing (error : DatabaseError) : Request → Answer
  | migrate => .migration (.error error)
  | insert _ _ _ => .insertion (.error error)
  | fetchDigest => .digest (.error error)
  | fetchSharing => .sharing (.error error)

/-- The numbers of a row. -/
def sharingOf (row : DigestRow) : Int × Int := (row.total, row.threshold)

/-- The answer to a request, and the database after it. -/
def serve (base : Database) : Request → Answer × Database
  | .migrate => (.migration base.migrate.1, base.migrate.2)
  | .insert digest total threshold =>
    (.insertion (base.insert digest total threshold).1, (base.insert digest total threshold).2)
  | .fetchDigest => (.digest (base.row.map fun row => row.map DigestRow.digest), base)
  | .fetchSharing => (.sharing (base.row.map fun row => row.map sharingOf), base)

/-- The database after requests, one after the other. -/
def served (base : Database) (requests : List Request) : Database :=
  requests.foldl (fun base request => (base.serve request).2) base

/-- A digest of 32 bytes comes with a threshold of at least two that is no more than the number of
pieces. -/
def IsRecord (digest : ByteString) (total threshold : UInt8) : Prop :=
  digest.length = 32 ∧ 2 ≤ threshold ∧ threshold ≤ total

instance (digest : ByteString) (total threshold : UInt8) :
    Decidable (IsRecord digest total threshold) :=
  inferInstanceAs (Decidable (_ ∧ _))

/-- The row that a request gives to the table, if it is one that can stand there. -/
def Request.row? : Request → Option DigestRow
  | insert digest total threshold =>
    if IsRecord digest total threshold then some ⟨digest, total.toNat, threshold.toNat⟩ else none
  | _ => none

/-- The first row given since the first migration that can stand in the table. -/
def firstRow? (requests : List Request) : Option DigestRow :=
  (requests.dropWhile (· ≠ .migrate)).findSome? Request.row?

/-- A migrated database with this row, or without one. -/
def migrated (row : Option DigestRow) : Database := ⟨some ⟨true, row⟩, true, false⟩

section

variable {digest : ByteString} {total threshold : UInt8}

theorem broken?_eq_none_iff_isRecord :
    (⟨digest, total.toNat, threshold.toNat⟩ : DigestRow).broken? = none ↔
      IsRecord digest total threshold := by
  have total_lt : total.toNat < 256 := total.toNat_lt
  rw [DigestRow.broken?_eq_none_iff, IsRecord, UInt8.le_iff_toNat_le, UInt8.le_iff_toNat_le]
  apply and_congr_right
  intro _
  have two_eq : (2 : UInt8).toNat = 2 := rfl
  dsimp only
  constructor
  · rintro ⟨two_le, le_total, _⟩
    omega
  · rintro ⟨two_le, le_total⟩
    omega

theorem insert_migrated_of_isRecord (isRecord : IsRecord digest total threshold)
    (row : Option DigestRow) :
    (migrated row).insert digest total threshold =
      match row with
      | none => (.ok .inserted, migrated (some ⟨digest, total.toNat, threshold.toNat⟩))
      | some _ => (.ok .alreadyExists, migrated row) := by
  have unbroken := broken?_eq_none_iff_isRecord.mpr isRecord
  cases row with
  | none =>
      simp [Database.insert, migrated, reachForWriting, reach, DigestTable.insert, unbroken]
  | some row =>
      simp [Database.insert, migrated, reachForWriting, reach, DigestTable.insert, unbroken,
        DatabaseFault.isRepeatedRow_repeatedRow]

/-- The conditions are checked first, so a row that breaks one is refused for that even where there is
a row already. -/
theorem insert_migrated_of_not_isRecord (notRecord : ¬IsRecord digest total threshold)
    (row : Option DigestRow) :
    ∃ condition, (migrated row).insert digest total threshold =
      (.error (.engine (.conditionFailed condition)), migrated row) := by
  rw [← broken?_eq_none_iff_isRecord] at notRecord
  rcases Option.ne_none_iff_exists'.mp notRecord with ⟨condition, broken⟩
  refine ⟨condition, ?_⟩
  simp [Database.insert, migrated, reachForWriting, reach, DigestTable.insert, broken,
    DatabaseFault.isRepeatedRow_conditionFailed]

end

/-- What a request does to a migrated database: if there is no row yet, it takes the one it is given. -/
theorem serve_migrated (row : Option DigestRow) (request : Request) :
    ((migrated row).serve request).2 = migrated (row.or request.row?) := by
  cases request with
  | insert digest total threshold =>
      rw [serve, Request.row?]
      split_ifs with isRecord
      · rw [insert_migrated_of_isRecord isRecord]
        cases row <;> rfl
      · rcases insert_migrated_of_not_isRecord isRecord row with ⟨condition, refused⟩
        rw [refused, Option.or_none]
  | _ => cases row <;> rfl

theorem served_migrated (row : Option DigestRow) (requests : List Request) :
    (migrated row).served requests = migrated (row.or (requests.findSome? Request.row?)) := by
  induction requests generalizing row with
  | nil => simp [served]
  | cons request later ih =>
      rw [served, List.foldl_cons, ← served, serve_migrated, ih, List.findSome?_cons, Option.or_assoc]
      cases request.row? <;> rfl

/-- Before a migration there is no table, and every other request fails for that. -/
theorem serve_fresh {request : Request} (notMigrate : request ≠ .migrate) :
    fresh.serve request = (request.failing (.engine .missingTable), fresh) := by
  cases request with
  | migrate => exact absurd rfl notMigrate
  | _ => rfl

theorem served_fresh_of_notMem {requests : List Request} (notMigrated : .migrate ∉ requests) :
    fresh.served requests = fresh := by
  induction requests with
  | nil => rfl
  | cons request later ih =>
      rw [List.mem_cons, not_or] at notMigrated
      rw [served, List.foldl_cons, ← served, serve_fresh (Ne.symm notMigrated.1)]
      exact ih notMigrated.2

theorem served_fresh_of_mem {requests : List Request} (isMigrated : .migrate ∈ requests) :
    fresh.served requests = migrated (firstRow? requests) := by
  induction requests with
  | nil => cases isMigrated
  | cons request later ih =>
      by_cases first : request = .migrate
      · subst first
        exact served_migrated none later
      · rw [served, List.foldl_cons, ← served, serve_fresh first, firstRow?,
          List.dropWhile_cons_of_pos (by simpa using first), ← firstRow?]
        apply ih
        simpa [Ne.symm first] using isMigrated

theorem isRecord_of_row? {request : Request} {row : DigestRow} (given : request.row? = some row) :
    ∃ digest total threshold, IsRecord digest total threshold ∧
      row = ⟨digest, total.toNat, threshold.toNat⟩ := by
  cases request with
  | insert digest total threshold =>
      rw [Request.row?] at given
      split_ifs at given with isRecord
      cases given
      exact ⟨digest, total, threshold, isRecord, rfl⟩
  | _ => cases given

theorem broken?_of_firstRow? {requests : List Request} {row : DigestRow}
    (held : firstRow? requests = some row) : row.broken? = none := by
  rcases List.exists_of_findSome?_eq_some held with ⟨request, _, given⟩
  rcases isRecord_of_row? given with ⟨digest, total, threshold, isRecord, rfl⟩
  exact broken?_eq_none_iff_isRecord.mpr isRecord

section

variable {digest : ByteString} {total threshold : UInt8} {row : Option DigestRow}

/-- The answer to a row that can stand in the table tells whether there is one already. -/
theorem answer_insert_of_isRecord (isRecord : IsRecord digest total threshold)
    (row : Option DigestRow) :
    ((migrated row).serve (.insert digest total threshold)).1 =
      .insertion (.ok (if row.isSome then .alreadyExists else .inserted)) := by
  rw [serve, insert_migrated_of_isRecord isRecord]
  cases row <;> rfl

theorem answer_insert_eq_inserted_iff :
    ((migrated row).serve (.insert digest total threshold)).1 = .insertion (.ok .inserted) ↔
      IsRecord digest total threshold ∧ row = none := by
  constructor
  · intro inserted
    by_cases isRecord : IsRecord digest total threshold
    · rw [answer_insert_of_isRecord isRecord] at inserted
      cases row with
      | none => exact ⟨isRecord, rfl⟩
      | some row => simp at inserted
    · rcases insert_migrated_of_not_isRecord isRecord row with ⟨condition, refused⟩
      simp [serve, refused] at inserted
  · rintro ⟨isRecord, rfl⟩
    exact answer_insert_of_isRecord isRecord none

/-- Only a row that is reported as inserted changes a migrated database. -/
theorem serve_migrated_of_not_inserted {request : Request}
    (notInserted : ((migrated row).serve request).1 ≠ .insertion (.ok .inserted)) :
    ((migrated row).serve request).2 = migrated row := by
  rw [serve_migrated]
  cases request with
  | insert digest total threshold =>
      rw [ne_eq, answer_insert_eq_inserted_iff] at notInserted
      rw [Request.row?]
      split_ifs with isRecord
      · cases row with
        | none => exact absurd ⟨isRecord, rfl⟩ notInserted
        | some row => rfl
      · rw [Option.or_none]
  | _ => simp [Request.row?]

/-- A row that is reported as inserted is what is read from then on, whatever is asked for in between. -/
theorem reads_after_inserted
    (inserted : ((migrated row).serve (.insert digest total threshold)).1 =
      .insertion (.ok .inserted)) (later : List Request) :
    let after := ((migrated row).serve (.insert digest total threshold)).2.served later
    (after.serve .fetchDigest).1 = .digest (.ok (some digest)) ∧
      (after.serve .fetchSharing).1 = .sharing (.ok (some (total.toNat, threshold.toNat))) := by
  intro after
  rcases answer_insert_eq_inserted_iff.mp inserted with ⟨isRecord, rfl⟩
  have after_eq : after = migrated (some ⟨digest, total.toNat, threshold.toNat⟩) := by
    dsimp only [after]
    rw [serve_migrated, Request.row?, if_pos isRecord, served_migrated]
    rfl
  rw [after_eq]
  exact ⟨rfl, rfl⟩

end

/-- However a fresh database was used: before its first migration every other request fails and
changes nothing. Afterwards its table has the first row given since that meets the conditions, or none,
and this is what is read. A further row is inserted exactly if it meets the conditions and there is none
yet; if it does not meet them, that is the error even where there is one. Nothing but an insertion that is
reported changes anything, and what was inserted is what is read from then on. -/
theorem keeps_first_row (requests : List Request) :
    let base := fresh.served requests
    let held? := firstRow? requests
    (.migrate ∉ requests →
      base.serve .migrate = (.migration (.ok ()), migrated none) ∧
      ∀ request, request ≠ .migrate →
        base.serve request = (request.failing (.engine .missingTable), base)) ∧
    (.migrate ∈ requests →
      base.table = some ⟨true, held?⟩ ∧
      (∀ row, held? = some row → row.digest.length = 32 ∧ 2 ≤ row.threshold ∧
        row.threshold ≤ row.total ∧ row.total ≤ 255) ∧
      base.serve .migrate = (.migration (.ok ()), base) ∧
      base.serve .fetchDigest = (.digest (.ok (held?.map DigestRow.digest)), base) ∧
      base.serve .fetchSharing = (.sharing (.ok (held?.map sharingOf)), base) ∧
      (∀ digest total threshold, IsRecord digest total threshold →
        (base.serve (.insert digest total threshold)).1 =
          .insertion (.ok (if held?.isSome then .alreadyExists else .inserted))) ∧
      (∀ digest total threshold, ¬IsRecord digest total threshold →
        ∃ condition, base.serve (.insert digest total threshold) =
          (.insertion (.error (.engine (.conditionFailed condition))), base)) ∧
      (∀ request, (base.serve request).1 ≠ .insertion (.ok .inserted) →
        (base.serve request).2 = base) ∧
      ∀ digest total threshold,
        (base.serve (.insert digest total threshold)).1 = .insertion (.ok .inserted) → ∀ later,
        let after := (base.serve (.insert digest total threshold)).2.served later
        (after.serve .fetchDigest).1 = .digest (.ok (some digest)) ∧
          (after.serve .fetchSharing).1 =
            .sharing (.ok (some (total.toNat, threshold.toNat)))) := by
  intro base held?
  constructor
  · intro notMigrated
    have base_eq : base = fresh := served_fresh_of_notMem notMigrated
    rw [base_eq]
    refine ⟨rfl, ?_⟩
    intro request notMigrate
    exact serve_fresh notMigrate
  · intro isMigrated
    have base_eq : base = migrated held? := served_fresh_of_mem isMigrated
    rw [base_eq]
    refine ⟨rfl, ?_, rfl, rfl, rfl, ?_, ?_, ?_, ?_⟩
    · intro row held
      exact DigestRow.broken?_eq_none_iff.mp (broken?_of_firstRow? held)
    · intro digest total threshold isRecord
      exact answer_insert_of_isRecord isRecord held?
    · intro digest total threshold notRecord
      rcases insert_migrated_of_not_isRecord notRecord held? with ⟨condition, refused⟩
      refine ⟨condition, ?_⟩
      rw [serve, refused]
    · intro request notInserted
      exact serve_migrated_of_not_inserted notInserted
    · intro digest total threshold inserted later
      exact reads_after_inserted inserted later

end Database

end KeyCustody

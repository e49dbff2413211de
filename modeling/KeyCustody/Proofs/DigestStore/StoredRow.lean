import KeyCustody.Proofs.DigestStore

/-!
# What a stored row is worth

The database may hold any row: another program can have made the table without its conditions and written
what it liked. What is read of a row is what stands there, if the digest has 32 bytes and the numbers
are bytes, and is an error otherwise. Whether pieces can be dealt by these numbers is left to the
conditions of the table. Where the table has them its row meets them, whoever wrote it; where it does
not, a server can start that will never be unsealed.
-/

namespace KeyCustody

/-- A row breaks no condition if its digest has 32 bytes and its numbers are a sharing. -/
theorem DigestRow.broken?_eq_none_iff {row : DigestRow} :
    row.broken? = none ↔ row.digest.length = 32 ∧ 2 ≤ row.threshold ∧ row.threshold ≤ row.total ∧
      row.total ≤ 255 := by
  unfold broken?
  constructor
  · intro unbroken
    split at unbroken
    · cases unbroken
    · split at unbroken
      · cases unbroken
      · split at unbroken
        · cases unbroken
        · omega
  · rintro ⟨length_eq, two_le, le_total, total_le⟩
    rw [if_neg (not_not_intro length_eq), if_neg (by omega), if_neg (by omega)]

namespace DigestTable

/-- If the table has its conditions, its row meets them. -/
def IsValid (table : DigestTable) : Prop :=
  table.isConditional = true → ∀ row, table.row = some row → row.broken? = none

theorem isValid_of_row_eq_none {table : DigestTable} (empty : table.row = none) : table.IsValid := by
  intro _ row row_eq
  rw [empty] at row_eq
  cases row_eq

theorem isValid_of_insert {table written : DigestTable} {row : DigestRow}
    (happened : table.insert row = .ok written) : written.IsValid := by
  rcases of_insert happened with ⟨_, rfl⟩
  intro isConditional
  rintro _ ⟨rfl⟩
  dsimp only at isConditional
  rw [insert, if_pos isConditional] at happened
  cases broken : row.broken? with
  | none => rfl
  | some condition =>
      rw [broken] at happened
      cases happened

end DigestTable

/-- What is done to a database, by this library or by another program. -/
inductive DatabaseCall where
  | migrate
  | insert (digest : ByteString) (total threshold : UInt8)
  | writeForeignRow (row : DigestRow)
  | close

namespace Database

def after (base : Database) : DatabaseCall → Database
  | .migrate => base.migrate.2
  | .insert digest total threshold => (base.insert digest total threshold).2
  | .writeForeignRow row => (base.writeForeignRow row).2
  | .close => base.close

def afterAll (base : Database) (calls : List DatabaseCall) : Database := calls.foldl after base

/-- The digest table of the database, if there is one, is valid. -/
def IsValid (base : Database) : Prop := ∀ table, base.table = some table → table.IsValid

variable {base : Database}

theorem isValid_fresh : fresh.IsValid := by
  rintro _ ⟨⟩

theorem IsValid.migrate (valid : base.IsValid) : base.migrate.2.IsValid := by
  unfold Database.migrate
  split
  · exact valid
  · split
    · exact valid
    · rintro _ ⟨rfl⟩
      exact DigestTable.isValid_of_row_eq_none rfl
  · exact valid

theorem IsValid.insert (valid : base.IsValid) (digest : ByteString) (total threshold : UInt8) :
    (base.insert digest total threshold).2.IsValid := by
  unfold Database.insert
  cases base.reachForWriting with
  | error fault => exact valid
  | ok table =>
      dsimp only
      split
      · rename_i written happened
        rintro _ ⟨rfl⟩
        exact DigestTable.isValid_of_insert happened
      · split <;> exact valid

theorem IsValid.writeForeignRow (valid : base.IsValid) (row : DigestRow) :
    (base.writeForeignRow row).2.IsValid := by
  have prepared : ∀ table, some (base.table.getD ⟨false, none⟩) = some table → table.IsValid := by
    rintro _ ⟨rfl⟩
    cases table_eq : base.table with
    | none => exact DigestTable.isValid_of_row_eq_none rfl
    | some table => exact valid table table_eq
  unfold Database.writeForeignRow
  dsimp only
  split
  · exact valid
  · split
    · rename_i written happened
      rintro _ ⟨rfl⟩
      exact DigestTable.isValid_of_insert happened
    · exact prepared

theorem IsValid.after (valid : base.IsValid) (call : DatabaseCall) : (base.after call).IsValid := by
  cases call with
  | migrate => exact valid.migrate
  | insert digest total threshold => exact valid.insert digest total threshold
  | writeForeignRow row => exact valid.writeForeignRow row
  | close => exact valid

theorem IsValid.afterAll (valid : base.IsValid) (calls : List DatabaseCall) :
    (base.afterAll calls).IsValid := by
  induction calls generalizing base with
  | nil => exact valid
  | cons call later ih => exact ih (valid.after call)

end Database

namespace DigestStore

theorem byte?_eq_some_iff {number : Int} {byte : UInt8} :
    byte? number = some byte ↔ number = byte.toNat := by
  constructor
  · intro read
    unfold byte? at read
    split at read
    · cases read
      rename_i inRange
      rw [Nat.toUInt8, UInt8.toNat_ofNat']
      omega
    · cases read
  · rintro rfl
    exact byte?_toNat byte

theorem rowDigest_eq_ok_iff {row : DigestRow} {digest : RootKeyDigest} :
    rowDigest row = .ok digest ↔ row.digest = digest.bytes := by
  constructor
  · intro read
    unfold rowDigest RootKeyDigest.ofBytes? at read
    by_cases length_eq : row.digest.length = digestSize
    · rw [dif_pos length_eq] at read
      cases read
      rfl
    · rw [dif_neg length_eq] at read
      cases read
  · intro digest_eq
    rw [rowDigest, digest_eq, RootKeyDigest.ofBytes?_bytes]

theorem rowSharing_eq_ok_iff {row : DigestRow} {sharing : Sharing} :
    rowSharing row = .ok sharing ↔
      row.total = sharing.total.toNat ∧ row.threshold = sharing.threshold.toNat := by
  rw [← byte?_eq_some_iff, ← byte?_eq_some_iff]
  constructor
  · intro read
    unfold rowSharing at read
    split at read
    · rename_i total threshold total_eq threshold_eq
      cases read
      exact ⟨total_eq, threshold_eq⟩
    · cases read
  · rintro ⟨total_eq, threshold_eq⟩
    rw [rowSharing, total_eq, threshold_eq]

variable {base : Database}

theorem digest_database_eq_ok_iff {digest : RootKeyDigest} :
    (database base).digest = .ok digest ↔
      ∃ row, base.row = .ok (some row) ∧ row.digest = digest.bytes := by
  cases row_read : base.row with
  | error fault => simp [DigestStore.digest, row_read]
  | ok held =>
      cases held with
      | none => simp [DigestStore.digest, row_read]
      | some row => simp [DigestStore.digest, row_read, rowDigest_eq_ok_iff]

theorem sharing_database_eq_ok_iff {sharing : Sharing} :
    (database base).sharing = .ok sharing ↔
      ∃ row, base.row = .ok (some row) ∧ row.total = sharing.total.toNat ∧
        row.threshold = sharing.threshold.toNat := by
  cases row_read : base.row with
  | error fault => simp [DigestStore.sharing, row_read]
  | ok held =>
      cases held with
      | none => simp [DigestStore.sharing, row_read]
      | some row => simp [DigestStore.sharing, row_read, rowSharing_eq_ok_iff]

/-- Only a database without a row says that there is no sharing. -/
theorem row_of_noSharing {what : String}
    (read : (database base).sharing = .error (.notFound what)) : base.row = .ok none := by
  unfold DigestStore.sharing at read
  cases row_read : base.row with
  | error fault => simp [row_read] at read
  | ok held =>
      cases held with
      | none => rfl
      | some row =>
          simp only [row_read, rowSharing] at read
          split at read <;> cases read

/-- Numbers read from a database whose table has its conditions are a sharing. -/
theorem usable_of_isValid (valid : base.IsValid) {table : DigestTable}
    (table_eq : base.table = some table) (isConditional : table.isConditional = true)
    {sharing : Sharing} (read : (database base).sharing = .ok sharing) :
    2 ≤ sharing.threshold ∧ sharing.threshold ≤ sharing.total := by
  rcases sharing_database_eq_ok_iff.mp read with ⟨row, row_read, total_eq, threshold_eq⟩
  have row_eq : table.row = some row := by
    have held := bind_of_row row_read
    rw [table_eq] at held
    exact held
  have unbroken := valid table table_eq isConditional row row_eq
  rcases DigestRow.broken?_eq_none_iff.mp unbroken with ⟨_, two_le, le_total, _⟩
  rw [total_eq, threshold_eq] at le_total
  rw [threshold_eq] at two_le
  rw [UInt8.le_iff_toNat_le, UInt8.le_iff_toNat_le]
  exact ⟨Int.ofNat_le.mp two_le, Int.ofNat_le.mp le_total⟩

end DigestStore

/-- A collector for which no piece is enough is full from the start. -/
theorem Collector.collect_empty_zero_ne (piece : KeyPiece) (collector : Collector) :
    (Collector.empty 0).collect piece ≠ .ok collector := by
  have isFull : (Collector.empty 0).isFull = true := rfl
  intro taken
  rw [collect, if_pos isFull] at taken
  split at taken <;> cases taken

/-- A server over a database takes the stored threshold if there is a sharing, and the configured one
only if there is no row. -/
theorem Server.of_start_database {configured : UInt8} {allowList : List String} {base : Database}
    {server : Server}
    (started : Server.start configured allowList (.ofStore (.database base)) = .ok server) :
    (∃ sharing, (DigestStore.database base).sharing = .ok sharing ∧
        server.custody.collector = Collector.empty sharing.threshold) ∨
      base.row = .ok none ∧ server.custody.collector = Collector.empty configured := by
  have fetched : (SharedStore.ofStore (.database base)).fetchSharing =
      (DigestStore.database base).sharing := rfl
  unfold Server.start at started
  rw [fetched] at started
  dsimp only at started
  split at started
  · rename_i sharing read
    cases started
    exact Or.inl ⟨sharing, read, rfl⟩
  · rename_i what read
    cases started
    exact Or.inr ⟨DigestStore.row_of_noSharing read, rfl⟩
  · cases started

namespace DigestStore

/-- Of a row with any bytes and numbers the digest and the sharing are read as they stand there, or not
at all, and a server takes the threshold that was read. It is a threshold for which pieces can be dealt
wherever the table has its conditions, whatever was done to the database before. -/
theorem sharing_limited_by_table (configured : UInt8) (allowList : List String) :
    (∀ base : Database,
      (∀ digest, (database base).digest = .ok digest ↔
        ∃ row, base.row = .ok (some row) ∧ row.digest = digest.bytes) ∧
      (∀ sharing, (database base).sharing = .ok sharing ↔
        ∃ row, base.row = .ok (some row) ∧ row.total = sharing.total.toNat ∧
          row.threshold = sharing.threshold.toNat) ∧
      ∀ server, Server.start configured allowList (.ofStore (database base)) = .ok server →
        (∃ sharing, (database base).sharing = .ok sharing ∧
          server.custody.collector = Collector.empty sharing.threshold) ∨
        base.row = .ok none ∧ server.custody.collector = Collector.empty configured) ∧
    ∀ calls table, (Database.fresh.afterAll calls).table = some table →
      table.isConditional = true →
      (∀ sharing, (database (Database.fresh.afterAll calls)).sharing = .ok sharing →
        2 ≤ sharing.threshold ∧ sharing.threshold ≤ sharing.total) ∧
      ∀ row server, table.row = some row →
        Server.start configured allowList (.ofStore (database (Database.fresh.afterAll calls))) =
          .ok server →
        2 ≤ server.custody.collector.threshold ∧
          (server.custody.collector.threshold.toNat : Int) ≤ row.total := by
  constructor
  · intro base
    refine ⟨fun _ => digest_database_eq_ok_iff, fun _ => sharing_database_eq_ok_iff, ?_⟩
    intro server started
    exact Server.of_start_database started
  · intro calls table table_eq isConditional
    have valid := Database.isValid_fresh.afterAll calls
    constructor
    · intro sharing read
      exact usable_of_isValid valid table_eq isConditional read
    · intro row server row_eq started
      have row?_eq : (database (Database.fresh.afterAll calls)).row? = some row := by
        rw [row?, table_eq]
        exact row_eq
      rcases Server.of_start_database started with ⟨sharing, read, collector_eq⟩ | ⟨noRow, _⟩
      · rcases sharing_database_eq_ok_iff.mp read with ⟨readRow, row_read, total_eq, _⟩
        cases (bind_of_row row_read).symm.trans row?_eq
        rcases usable_of_isValid valid table_eq isConditional read with ⟨two_le, le_total⟩
        rw [collector_eq, total_eq]
        exact ⟨two_le, Int.ofNat_le.mpr le_total⟩
      · cases (bind_of_row noRow).symm.trans row?_eq

/-- Another program has made the table and recorded that no pieces are needed out of three. The server
starts with this threshold and takes no piece at all. -/
theorem foreign_row_makes_server_unusable :
    let base := (Database.fresh.writeForeignRow ⟨List.replicate 32 7, 3, 0⟩).2
    (database base).sharing = .ok ⟨3, 0⟩ ∧ ¬2 ≤ (⟨3, 0⟩ : Sharing).threshold ∧
      ∃ server, Server.start 2 [] (.ofStore (database base)) = .ok server ∧
        server.custody.collector.threshold = 0 ∧
        ∀ piece collector, server.custody.collector.collect piece ≠ .ok collector := by
  refine ⟨rfl, by decide, _, rfl, rfl, ?_⟩
  intro piece collector taken
  exact Collector.collect_empty_zero_ne piece collector taken

end DigestStore

end KeyCustody

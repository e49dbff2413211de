import KeyCustody.ByteString
import KeyCustody.DatabaseError

/-!
# The digest table

The database keeps the root key digest and the sharing in a table of at most one row. Migrating creates
the table, with conditions on its row, unless a table of that name is there already; another program
may have made it without the conditions and may have written any bytes and numbers.
-/

namespace KeyCustody

/-- The row of the digest table, as the database holds it. -/
structure DigestRow where
  digest : ByteString
  total : Int
  threshold : Int
deriving DecidableEq, Repr

/-- The first condition that a row breaks. -/
def DigestRow.broken? (row : DigestRow) : Option RowCondition :=
  if row.digest.length ≠ 32 then some .digestLength
  else if row.total < 2 ∨ 255 < row.total then some .totalRange
  else if row.threshold < 2 ∨ row.total < row.threshold then some .thresholdRange
  else none

/-- The digest table: whether it puts conditions on its row, and the row. -/
structure DigestTable where
  /-- Whether the conditions hold for every row that is written. -/
  isConditional : Bool
  row : Option DigestRow
deriving DecidableEq, Repr

/-- Writes the row. The conditions are checked before it matters whether there is a row already. -/
def DigestTable.insert (table : DigestTable) (row : DigestRow) : Except DatabaseFault DigestTable :=
  match if table.isConditional then row.broken? else none with
  | some condition => .error (.conditionFailed condition)
  | none =>
    match table.row with
    | some _ => .error .repeatedRow
    | none => .ok { table with row := some row }

/-- A database as far as this library uses it. -/
structure Database where
  table : Option DigestTable
  isOpen : Bool
  isReadOnly : Bool
deriving DecidableEq, Repr

/-- What became of a row that was to be inserted. -/
inductive InsertOutcome where
  | inserted
  | alreadyExists
deriving DecidableEq, Repr

namespace Database

/-- A fresh database. -/
def fresh : Database := ⟨none, true, false⟩

/-- Closes the connection pool. -/
def close (database : Database) : Database := { database with isOpen := false }

/-- The digest table, if it can be read. -/
def reach (database : Database) : Except DatabaseFault DigestTable :=
  if database.isOpen then
    match database.table with
    | some table => .ok table
    | none => .error .missingTable
  else .error .poolClosed

/-- The digest table, if it can be written to. -/
def reachForWriting (database : Database) : Except DatabaseFault DigestTable :=
  match database.reach with
  | .error fault => .error fault
  | .ok table => if database.isReadOnly then .error .readOnly else .ok table

/-- Creates the digest table with its conditions unless there is one. -/
def migrate (database : Database) : Except DatabaseError Unit × Database :=
  match database.reach with
  | .ok _ => (.ok (), database)
  | .error .missingTable =>
    if database.isReadOnly then (.error (.engine .readOnly), database)
    else (.ok (), { database with table := some ⟨true, none⟩ })
  | .error fault => (.error (.engine fault), database)

/-- Inserts the row unless there is one. -/
def insert (database : Database) (digest : ByteString) (total threshold : UInt8) :
    Except DatabaseError InsertOutcome × Database :=
  match database.reachForWriting with
  | .error fault => (.error (.engine fault), database)
  | .ok table =>
    match table.insert ⟨digest, total.toNat, threshold.toNat⟩ with
    | .ok written => (.ok .inserted, { database with table := some written })
    | .error fault =>
      if fault.isRepeatedRow then (.ok .alreadyExists, database)
      else (.error (.engine fault), database)

/-- The row, if there is one. -/
def row (database : Database) : Except DatabaseError (Option DigestRow) :=
  match database.reach with
  | .error fault => .error (.engine fault)
  | .ok table => .ok table.row

/-- Another program writes the row, after creating the table without conditions if there is none. -/
def writeForeignRow (database : Database) (row : DigestRow) :
    Except DatabaseError Unit × Database :=
  let prepared := { database with table := some (database.table.getD ⟨false, none⟩) }
  match prepared.reachForWriting with
  | .error fault => (.error (.engine fault), database)
  | .ok table =>
    match table.insert row with
    | .ok written => (.ok (), { prepared with table := some written })
    | .error fault => (.error (.engine fault), prepared)

end Database

end KeyCustody

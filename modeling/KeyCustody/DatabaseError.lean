import KeyCustody.Text.Occurrence
import KeyCustody.Text.Quoted

/-!
# Errors of the database

What the database engine reports, with its extended result codes, and the errors of the operations on
top of it.
-/

namespace KeyCustody

/-- The conditions that the digest table puts on its row, in the order in which they are checked. -/
inductive RowCondition where
  /-- The digest has 32 bytes. -/
  | digestLength
  /-- There are 2 to 255 pieces. -/
  | totalRange
  /-- The threshold is at least two and no more than the number of pieces. -/
  | thresholdRange
deriving DecidableEq, Repr

/-- The expression of the condition in the table's definition. -/
def RowCondition.expression : RowCondition → String
  | digestLength => "length(digest) = 32"
  | totalRange => "total_shares BETWEEN 2 AND 255"
  | thresholdRange => "threshold >= 2 AND threshold <= total_shares"

/-- A fault reported by the database engine or its connection pool. -/
inductive DatabaseFault where
  | missingTable
  | conditionFailed (condition : RowCondition)
  | repeatedRow
  | readOnly
  | cannotOpen
  | notDatabase
  | noFileSystem (name : String)
  | foreignHost (name : String)
  | zeroInPath
  | poolClosed
  | rowNotFound
deriving DecidableEq, Repr

namespace DatabaseFault

/-- The result code and the text under which the engine reports the fault, if it is one of the
engine. -/
def report? : DatabaseFault → Option (Nat × String)
  | missingTable => some (1, "no such table: root_key_digest")
  | conditionFailed condition => some (275, "CHECK constraint failed: " ++ condition.expression)
  | repeatedRow => some (1555, "UNIQUE constraint failed: root_key_digest.id")
  | readOnly => some (8, "attempt to write a readonly database")
  | cannotOpen => some (14, "unable to open database file")
  | notDatabase => some (26, "file is not a database")
  | noFileSystem name => some (1, "no such vfs: " ++ name)
  | foreignHost name => some (1, "invalid uri authority: " ++ name)
  | zeroInPath => none
  | poolClosed => none
  | rowNotFound => none

/-- The text about a path with a zero byte. -/
def zeroInPathText : String := "filename passed to SQLite must not contain nul bytes"

/-- The wording of a fault that the engine does not report. -/
def otherMessage : DatabaseFault → String
  | poolClosed => "attempted to acquire a connection on a closed pool"
  | rowNotFound => "no rows returned by a query that expected to return at least one row"
  | _ => "error communicating with database: " ++ zeroInPathText

/-- The wording of the fault. -/
def message (fault : DatabaseFault) : String :=
  match fault.report? with
  | some (code, text) => s!"error returned from database: (code: {code}) {text}"
  | none => fault.otherMessage

/-- The fault as a failure report shows it. -/
def shown (fault : DatabaseFault) : String :=
  match fault.report?, fault with
  | some (code, text), _ =>
    s!"Database(SqliteError \x7b code: {code}, message: " ++ Text.quoted text ++ " \x7d)"
  | none, poolClosed => "PoolClosed"
  | none, rowNotFound => "RowNotFound"
  | none, _ =>
    "Io(Custom \x7b kind: InvalidData, error: " ++ Text.quoted zeroInPathText ++ " \x7d)"

/-- Whether the engine reports that the row is already there, which shows in its text only. -/
def isRepeatedRow (fault : DatabaseFault) : Bool :=
  match fault.report? with
  | some (_, text) =>
    Text.occursIn "UNIQUE constraint failed".toList text.toList ||
      Text.occursIn "PRIMARY KEY constraint failed".toList text.toList
  | none => false

theorem isRepeatedRow_repeatedRow : isRepeatedRow repeatedRow = true := by
  decide

/-- A condition that fails is not taken for a row that is already there. -/
theorem isRepeatedRow_conditionFailed (condition : RowCondition) :
    isRepeatedRow (conditionFailed condition) = false := by
  cases condition <;> decide

end DatabaseFault

/-- Why an operation on the database failed. -/
inductive DatabaseError where
  | engine (fault : DatabaseFault)
  | notFound (what : String)
  | conflict (what : String)
  | internal (reason : String)
deriving DecidableEq, Repr

namespace DatabaseError

/-- The wording of the error. -/
def message : DatabaseError → String
  | engine fault => "Database error: " ++ fault.message
  | notFound what => "Not found: " ++ what
  | conflict what => "Conflict: " ++ what
  | internal reason => "Internal: " ++ reason

/-- The error as a failure report shows it: its cause, and the reason in quotes. -/
def shown : DatabaseError → String
  | engine fault => "Sqlx(" ++ fault.shown ++ ")"
  | notFound what => "NotFound(" ++ Text.quoted what ++ ")"
  | conflict what => "Conflict(" ++ Text.quoted what ++ ")"
  | internal reason => "Internal(" ++ Text.quoted reason ++ ")"

end DatabaseError

end KeyCustody

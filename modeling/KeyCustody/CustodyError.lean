import KeyCustody.DatabaseError
import KeyCustody.KeyError

/-!
# Errors of root key custody

The errors that the operations on the root key report to their callers. Each belongs to a class that
decides its status code; the errors of the key operations and of the database are passed on inside.
-/

namespace KeyCustody

/-- Why an operation on the root key failed. -/
inductive CustodyError where
  | invalidInput (reason : String)
  | conflict (reason : String)
  | notReady (reason : String)
  | notFound (what : String)
  | key (error : KeyError)
  | database (error : DatabaseError)
  | internal (reason : String)
deriving DecidableEq, Repr

namespace CustodyError

/-- The wording of the error. -/
def message : CustodyError → String
  | invalidInput reason => "invalid input: " ++ reason
  | conflict reason => "conflict: " ++ reason
  | notReady reason => "not ready: " ++ reason
  | notFound what => "not found: " ++ what
  | key error => "key error: " ++ error.message
  | database error => "database error: " ++ error.message
  | internal reason => "internal error: " ++ reason

/-- The error as a failure report shows it: its cause, and the reason in quotes. -/
def shown : CustodyError → String
  | invalidInput reason => "InvalidInput(" ++ Text.quoted reason ++ ")"
  | conflict reason => "Conflict(" ++ Text.quoted reason ++ ")"
  | notReady reason => "NotReady(" ++ Text.quoted reason ++ ")"
  | notFound what => "NotFound(" ++ Text.quoted what ++ ")"
  | key error => "Keys(" ++ error.shown ++ ")"
  | database error => "Database(" ++ error.shown ++ ")"
  | internal reason => "Internal(" ++ Text.quoted reason ++ ")"

/-- Whether the error is the server's own fault. -/
def isInternal : CustodyError → Bool
  | database _ => true
  | internal _ => true
  | key error => error.isInternal
  | _ => false

/-- The status code of an answer that reports the error. -/
def status : CustodyError → Nat
  | invalidInput _ => 400
  | notFound _ => 404
  | conflict _ => 409
  | notReady _ => 503
  | key error => error.status
  | database _ => 500
  | internal _ => 500

end CustodyError

end KeyCustody

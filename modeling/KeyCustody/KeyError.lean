import KeyCustody.Text.Quoted

/-!
# Errors of the key operations

What can go wrong when keys are wrapped, payloads opened and credentials checked: the cause, its
wording, whether it is the server's own fault, and the status code with which it is answered.
-/

namespace KeyCustody

/-- Why a key operation failed. -/
inductive KeyError where
  | invalidInput (reason : String)
  | invalidCredential
  | decryptFailed
  | internal (reason : String)
deriving DecidableEq, Repr

namespace KeyError

/-- A key of another size than 32 bytes. -/
def invalidKeySize (size : Nat) : KeyError :=
  invalidInput s!"key must be 32 bytes, got {size}"

/-- The wording of the error. -/
def message : KeyError → String
  | invalidInput reason => "invalid input: " ++ reason
  | invalidCredential => "invalid credential"
  | decryptFailed => "decryption failed"
  | internal reason => "internal error: " ++ reason

/-- The error as a failure report shows it: its cause, and the reason in quotes. -/
def shown : KeyError → String
  | invalidInput reason => "InvalidInput(" ++ Text.quoted reason ++ ")"
  | invalidCredential => "InvalidCredential"
  | decryptFailed => "DecryptFailed"
  | internal reason => "Internal(" ++ Text.quoted reason ++ ")"

/-- Whether the error is the server's own fault. -/
def isInternal : KeyError → Bool
  | internal _ => true
  | _ => false

/-- The status code of an answer that reports the error. -/
def status : KeyError → Nat
  | invalidInput _ => 400
  | invalidCredential => 401
  | decryptFailed => 500
  | internal _ => 500

end KeyError

end KeyCustody

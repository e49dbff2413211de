import KeyCustody.Keystore
import KeyCustody.Text.Blank

/-!
# The request gate

Every request names an operation and passes through a list of checks; the first one that objects
decides the answer and the rest do not run. The seal check refuses every operation outside its
allow-list while no root key is loaded.
-/

namespace KeyCustody

/-- The answer to a request that a check refuses. -/
structure GateRejection where
  check : String
  status : Nat
  code : String
  message : String
deriving DecidableEq, Repr

/-- The refusal of the seal check. -/
def GateRejection.serverSealed : GateRejection :=
  ⟨"seal", 503, "sealed", "server is sealed"⟩

/-- A check: its name, and its verdict on an operation given the keystore at that moment. -/
structure RequestCheck where
  name : String
  verdict : Keystore → String → Option GateRejection

/-- The operations that the seal check lets pass at any time. -/
structure SealGate where
  /-- The allowed operations: trimmed, in lower case and not empty. -/
  allowed : List String
deriving DecidableEq, Repr

namespace SealGate

/-- The operations that are allowed unless configured otherwise. -/
def defaultAllowList : List String := ["unseal", "login"]

/-- The seal check with an allow-list, whose entries are trimmed and lowercased; blank ones are
dropped. -/
def ofAllowList (entries : List String) : SealGate :=
  ⟨(entries.map fun entry => Text.lowercase (Text.trim entry)).filter (· ≠ "")⟩

/-- Whether an operation passes while the server is sealed, in any case of its ASCII letters. -/
def isAllowed (gate : SealGate) (operation : String) : Bool :=
  gate.allowed.contains (Text.lowercase operation)

/-- The verdict of the seal check. -/
def verdict (gate : SealGate) (keystore : Keystore) (operation : String) : Option GateRejection :=
  if gate.isAllowed operation || keystore.isLoaded then none else some GateRejection.serverSealed

/-- The seal check as one of the checks of a gate. -/
def toCheck (gate : SealGate) : RequestCheck :=
  ⟨"seal", gate.verdict⟩

end SealGate

/-- A gate: its checks in the order in which they run. -/
structure RequestGate where
  checks : List RequestCheck

namespace RequestGate

/-- Runs checks until one objects: the names of those that ran, and the refusal. -/
def runChecks (keystore : Keystore) (operation : String) :
    List RequestCheck → List String × Option GateRejection
  | [] => ([], none)
  | check :: rest =>
    match check.verdict keystore operation with
    | some rejection => ([check.name], some rejection)
    | none =>
      let (names, rejection) := runChecks keystore operation rest
      (check.name :: names, rejection)

/-- Runs the gate on an operation: the names of the checks that ran, and the refusal. -/
def run (gate : RequestGate) (keystore : Keystore) (operation : String) :
    List String × Option GateRejection :=
  runChecks keystore operation gate.checks

/-- The refusal of an operation, if any check objects. -/
def rejection? (gate : RequestGate) (keystore : Keystore) (operation : String) :
    Option GateRejection :=
  (gate.run keystore operation).2

/-- The gate with one more check at its end. -/
def withCheck (gate : RequestGate) (check : RequestCheck) : RequestGate :=
  ⟨gate.checks ++ [check]⟩

end RequestGate

end KeyCustody

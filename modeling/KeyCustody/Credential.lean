import KeyCustody.Credential.PhcString
import KeyCustody.Hash.Argon2
import KeyCustody.Hash.Hmac
import KeyCustody.WrappedKey

/-!
# Credentials

A user's password is stored as an Argon2 hash with its salt and cost. Checking a password computes the
hash again with what the stored text says, so stored hashes of any cost can be checked. The user's key
is derived from the password and a salt of its own, and only once the password has been found to match;
it does not depend on the stored hash.
-/

namespace KeyCustody

namespace Credential

/-- What the parameters of a stored hash say about the cost. -/
structure Cost where
  memory : Nat
  passes : Nat
  lanes : Nat
  data : ByteString
deriving DecidableEq, Repr

/-- The cost of new hashes, and of stored ones whose text leaves it out. -/
def Cost.standard : Cost := ⟨19456, 2, 1, []⟩

/-- A byte string in base 64 of at most `limit` bytes. -/
def boundedBytes? (limit : Nat) (text : String) : Option ByteString :=
  match Base64.decode? text with
  | some bytes => if bytes.length ≤ limit then some bytes else none
  | none => none

/-- Takes one parameter into account; a later one of the same name wins. -/
def Cost.adjust? (cost : Cost) (parameter : String × String) : Option Cost :=
  let (name, value) := parameter
  if name = "m" then
    (PhcString.decimal? value.toList).map fun memory => { cost with memory }
  else if name = "t" then
    (PhcString.decimal? value.toList).map fun passes => { cost with passes }
  else if name = "p" then
    (PhcString.decimal? value.toList).map fun lanes => { cost with lanes }
  else if name = "keyid" then
    (boundedBytes? 8 value).map fun _ => cost
  else if name = "data" then
    (boundedBytes? 32 value).map fun data => { cost with data }
  else none

/-- Whether the hash is defined for a cost: at least eight blocks of memory for each of one to
16777215 lanes, and at least one pass. -/
def Cost.isUsable (cost : Cost) : Bool :=
  8 ≤ cost.memory && 8 * cost.lanes ≤ cost.memory && 1 ≤ cost.passes && 1 ≤ cost.lanes &&
    cost.lanes ≤ 16777215

/-- The largest number of bytes of a password for which the hash is defined. -/
def passwordLimit : Nat := 0xFFFFFFFF

/-- The variant of an algorithm name. -/
def variant? (algorithm : String) : Option Argon2.Variant :=
  if algorithm = "argon2d" then some .d
  else if algorithm = "argon2i" then some .i
  else if algorithm = "argon2id" then some .id
  else none

/-- The version of a version number; the newer one if none is given. -/
def version? : Option Nat → Option Argon2.Version
  | none => some .v19
  | some 19 => some .v19
  | some 16 => some .v16
  | some _ => none

/-- The salt that a text stands for, if it is long enough. -/
def saltBytes? (text : String) : Option ByteString :=
  match Base64.decode? text with
  | some salt => if 8 ≤ salt.length then some salt else none
  | none => none

/-- The hash of a password as a stored hash asks for it: none if it has no salt or hash, or if the
algorithm, the version, the salt, the cost or the password cannot be used. -/
def recompute? (password : ByteString) (stored : PhcString) : Option ByteString := do
  let salt ← stored.salt
  let expected ← stored.hash
  let cost ← stored.parameters.foldlM Cost.adjust? Cost.standard
  guard cost.isUsable
  let variant ← variant? stored.algorithm
  let version ← version? stored.version
  let saltBytes ← saltBytes? salt
  guard (password.length ≤ passwordLimit)
  return Argon2.hash
    { variant, version,
      memory := cost.memory, passes := cost.passes, lanes := cost.lanes, size := expected.length,
      data := cost.data }
    password saltBytes

/-- Whether a password matches a stored hash. -/
def isMatch (password : ByteString) (stored : PhcString) : Bool :=
  match recompute? password stored with
  | some hash => stored.hash == some hash
  | none => false

/-- Checks a password against the text of a stored hash. -/
def verify (password text : String) : Except KeyError Bool :=
  match PhcString.ofText? text with
  | some stored => .ok (isMatch (ByteString.ofText password) stored)
  | none => .error (.internal "invalid credential hash format")

/-- The stored hash of a password under a salt, at the standard cost. -/
def storedHash (password salt : ByteString) : PhcString :=
  let cost := Cost.standard
  { algorithm := "argon2id"
    version := some 19
    parameters :=
      [("m", toString cost.memory), ("t", toString cost.passes), ("p", toString cost.lanes)]
    salt := some (Base64.encode salt)
    hash := some (Argon2.hash
      { variant := .id, version := .v19,
        memory := cost.memory, passes := cost.passes, lanes := cost.lanes, size := keySize,
        data := [] }
      password salt) }

/-- Hashes a password under a drawn salt. -/
def hash {Supply : Type} [ByteSupply Supply] (password : String) (supply : Supply) :
    String × Supply :=
  let (salt, afterSalt) := generateSalt supply
  ((storedHash (ByteString.ofText password) salt).toText, afterSalt)

/-- Hashes a new password: the salt is drawn first, and a password for which the hash is not defined is
refused. -/
def issue {Supply : Type} [ByteSupply Supply] (password : String) (supply : Supply) :
    Except KeyError String × Supply :=
  let (text, afterSalt) := hash password supply
  (if (ByteString.ofText password).length ≤ passwordLimit then .ok text
    else .error (.internal "failed to hash credential"), afterSalt)

/-- The number of iterations of the key derivation. -/
def derivationIterations : Nat := 210000

/-- Derives the user's key from the password and the salt of the key. -/
def deriveKey (password : String) (salt : ByteString) (text : String) :
    Except KeyError ByteString :=
  if salt = [] then .error (.invalidInput "salt must not be empty")
  else
    match verify password text with
    | .error error => .error error
    | .ok false => .error .invalidCredential
    | .ok true => .ok (Pbkdf2.derive (ByteString.ofText password) salt derivationIterations)

end Credential

end KeyCustody

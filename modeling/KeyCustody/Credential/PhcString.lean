import KeyCustody.Base64

/-!
# PHC strings

A password hash is stored as text: `$algorithm$v=version$parameters$salt$hash`, where everything after
the algorithm may be missing, but no salt stands after a missing one and no hash without a salt.
Reading checks the characters and lengths of every part, but not whether the algorithm and its
parameters mean anything.
-/

namespace KeyCustody

/-- The parts of a stored password hash. -/
structure PhcString where
  algorithm : String
  version : Option Nat
  parameters : List (String × String)
  salt : Option String
  hash : Option ByteString
deriving DecidableEq, Repr

namespace PhcString

/-- Whether a character may stand in a name. -/
def isNameChar (character : Char) : Bool :=
  ('a' ≤ character && character ≤ 'z') || ('0' ≤ character && character ≤ '9') || character == '-'

/-- Whether a character may stand in the value of a parameter or in a salt. -/
def isValueChar (character : Char) : Bool :=
  ('A' ≤ character && character ≤ 'Z') || ('a' ≤ character && character ≤ 'z') ||
    ('0' ≤ character && character ≤ '9') || character == '/' || character == '+' ||
    character == '.' || character == '-'

/-- A name: one to 32 characters. -/
def name? (characters : List Char) : Option String :=
  if characters ≠ [] ∧ characters.length ≤ 32 ∧ characters.all isNameChar then
    some (String.ofList characters)
  else none

/-- A value: up to 64 characters. -/
def value? (characters : List Char) : Option String :=
  if characters.length ≤ 64 ∧ characters.all isValueChar then some (String.ofList characters)
  else none

/-- A number of 32 bits in decimal without leading zeros. -/
def decimal? (characters : List Char) : Option Nat :=
  if characters = [] ∨ ¬characters.all Char.isDigit then none
  else if characters.head? = some '0' ∧ characters.length > 1 then none
  else
    let number := characters.foldl (fun value digit => value * 10 + (digit.toNat - 48)) 0
    if number < 0x100000000 then some number else none

/-- A parameter: a name, an equals sign and a value. -/
def parameter? (characters : List Char) : Option (String × String) :=
  match characters.splitOn '=' with
  | [name, value] => do return (← name? name, ← value? value)
  | _ => none

/-- Parameters separated by commas, up to 127 characters. -/
def parameters? (characters : List Char) : Option (List (String × String)) :=
  if characters.length ≤ 127 then (characters.splitOn ',').mapM parameter? else none

/-- A salt: four to 64 characters. -/
def salt? (characters : List Char) : Option String :=
  if 4 ≤ characters.length then value? characters else none

/-- A hash: ten to 64 bytes in base 64. -/
def hash? (characters : List Char) : Option ByteString :=
  match Base64.decode? (String.ofList characters) with
  | some bytes => if 10 ≤ bytes.length ∧ bytes.length ≤ 64 then some bytes else none
  | none => none

/-- Takes the version off the parts, if the first one is a version. -/
def takeVersion? : List (List Char) → Option (Option Nat × List (List Char))
  | ('v' :: '=' :: digits) :: rest =>
    if digits.contains ',' then some (none, ('v' :: '=' :: digits) :: rest)
    else (decimal? digits).map fun version => (some version, rest)
  | parts => some (none, parts)

/-- Takes the parameters off the parts, if the first one has an equals sign. -/
def takeParameters? :
    List (List Char) → Option (List (String × String) × List (List Char))
  | part :: rest =>
    if part.contains '=' then (parameters? part).map fun parameters => (parameters, rest)
    else some ([], part :: rest)
  | [] => some ([], [])

/-- The salt and the hash that make up the remaining parts. -/
def saltAndHash? : List (List Char) → Option (Option String × Option ByteString)
  | [] => some (none, none)
  | [salt] => (salt? salt).map fun salt => (some salt, none)
  | [salt, hash] => do return (some (← salt? salt), some (← hash? hash))
  | _ => none

/-- Reads a stored password hash. -/
def ofText? (text : String) : Option PhcString :=
  match text.toList.splitOn '$' with
  | [] :: algorithm :: parts => do
    let algorithm ← name? algorithm
    let (version, parts) ← takeVersion? parts
    let (parameters, parts) ← takeParameters? parts
    let (salt, hash) ← saltAndHash? parts
    return { algorithm, version, parameters, salt, hash }
  | _ => none

/-- The text of a stored password hash. -/
def toText (stored : PhcString) : String :=
  let version := match stored.version with
    | some version => "$v=" ++ toString version
    | none => ""
  let parameters := match stored.parameters with
    | [] => ""
    | parameters =>
      "$" ++ ",".intercalate (parameters.map fun parameter => parameter.1 ++ "=" ++ parameter.2)
  let salt := match stored.salt with
    | some salt => "$" ++ salt
    | none => ""
  let hash := match stored.hash with
    | some hash => "$" ++ Base64.encode hash
    | none => ""
  "$" ++ stored.algorithm ++ version ++ parameters ++ salt ++ hash

end PhcString

end KeyCustody

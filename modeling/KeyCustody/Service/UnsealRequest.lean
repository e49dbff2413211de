import KeyCustody.Service.JsonText

/-!
# The body of an unseal request

An object with the text of a key piece under `share`, next to which other fields are ignored, or a list
of that one text. A body that is no JSON and a body of another shape are told apart, and whichever
fault comes first in the text decides.
-/

namespace KeyCustody

/-- Why a body is no unseal request. -/
inductive BodyFault where
  | malformed
  | misshapen
deriving DecidableEq, Repr

namespace UnsealRequest

open JsonText

/-- The fault of a value where another kind of value was expected: its own, if it is malformed as far
as it is looked at. A list or an object is not looked into. -/
def misplaced : ByteString → BodyFault
  | [] => .malformed
  | byte :: rest =>
    if byte = code '[' ∨ byte = code '\x7b' then .misshapen
    else if byte = code '"' then
      if (readString? rest).isSome then .misshapen else .malformed
    else if byte = code '-' ∨ isDigit byte then
      match readNumber? (if byte = code '-' then rest else byte :: rest) with
      | some number => if number.isTooLarge then .malformed else .misshapen
      | none => .malformed
    else if (skipScalar? (byte :: rest)).isSome then .misshapen
    else .malformed

/-- Reads a string value. -/
def stringValue (text : ByteString) : Except BodyFault (String × ByteString) :=
  match skipSpace text with
  | [] => .error .malformed
  | byte :: rest =>
    if byte = code '"' then
      match readString? rest with
      | some read => .ok read
      | none => .error .malformed
    else .error (misplaced (byte :: rest))

/-- Reads the key of a field. -/
def fieldKey (text : ByteString) : Except BodyFault (String × ByteString) :=
  match skipSpace text with
  | [] => .error .malformed
  | byte :: rest =>
    if byte = code '"' then
      match readString? rest with
      | some read => .ok read
      | none => .error .malformed
    else .error .malformed

/-- What follows the colon after a key. -/
def afterColon (text : ByteString) : Except BodyFault ByteString :=
  match skipSpace text with
  | [] => .error .malformed
  | byte :: rest => if byte = code ':' then .ok rest else .error .malformed

/-- Reads one field: the text of the piece, as far as it is known, after the field. -/
def field (share : Option String) (text : ByteString) :
    Except BodyFault (Option String × ByteString) := do
  let (key, afterKey) ← fieldKey text
  if key = "share" then
    if share.isSome then throw .misshapen
    let (value, rest) ← stringValue (← afterColon afterKey)
    return (some value, rest)
  else
    match skipValue? (← afterColon afterKey) with
    | some rest => return (share, rest)
    | none => throw .malformed

/-- Reads the fields after the first one. -/
def furtherFields : Nat → Option String → ByteString → Except BodyFault (String × ByteString)
  | 0, _, _ => .error .malformed
  | fuel + 1, share, text =>
    match skipSpace text with
    | [] => .error .malformed
    | byte :: rest =>
      if byte = code '\x7d' then
        match share with
        | some share => .ok (share, rest)
        | none => .error .misshapen
      else if byte = code ',' then do
        let (share, after) ← field share rest
        furtherFields fuel share after
      else .error .malformed

/-- Reads an object after its opening bracket. -/
def objectBody (text : ByteString) : Except BodyFault (String × ByteString) :=
  match skipSpace text with
  | [] => .error .malformed
  | byte :: rest =>
    if byte = code '\x7d' then .error .misshapen
    else do
      let (share, after) ← field none (byte :: rest)
      furtherFields (text.length + 1) share after

/-- Reads a list after its opening bracket. -/
def arrayBody (text : ByteString) : Except BodyFault (String × ByteString) :=
  match skipSpace text with
  | [] => .error .malformed
  | byte :: rest =>
    if byte = code ']' then .error .misshapen
    else do
      let (share, after) ← stringValue (byte :: rest)
      match skipSpace after with
      | close :: next => if close = code ']' then return (share, next) else throw .malformed
      | [] => throw .malformed

/-- Reads the value of a body and what follows it. -/
def bodyValue (text : ByteString) : Except BodyFault (String × ByteString) :=
  match skipSpace text with
  | [] => .error .malformed
  | byte :: rest =>
    if byte = code '\x7b' then objectBody rest
    else if byte = code '[' then arrayBody rest
    else .error (misplaced (byte :: rest))

/-- The text of the key piece in a body, after which only space may follow. -/
def shareText (body : ByteString) : Except BodyFault String := do
  let (share, rest) ← bodyValue body
  if skipSpace rest = [] then return share else throw .malformed

end UnsealRequest

end KeyCustody

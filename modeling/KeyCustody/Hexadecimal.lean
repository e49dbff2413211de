import KeyCustody.ByteString

/-!
# Hexadecimal text

Byte strings travel as hexadecimal text. Writing uses lower case; reading takes either case and
refuses every other character and an odd number of digits.
-/

namespace KeyCustody

namespace Hexadecimal

/-- The lower-case digit of a number below sixteen. -/
def digit (value : UInt8) : Char :=
  if value < 10 then Char.ofNat (48 + value.toNat) else Char.ofNat (87 + value.toNat)

/-- The number that a digit of either case stands for. -/
def value? (character : Char) : Option UInt8 :=
  if '0' ≤ character ∧ character ≤ '9' then some (character.toNat - 48).toUInt8
  else if 'a' ≤ character ∧ character ≤ 'f' then some (character.toNat - 87).toUInt8
  else if 'A' ≤ character ∧ character ≤ 'F' then some (character.toNat - 55).toUInt8
  else none

/-- The two digits of every byte, high digit first. -/
def digits : ByteString → List Char
  | [] => []
  | byte :: rest => digit (byte >>> 4) :: digit (byte &&& 15) :: digits rest

/-- The bytes whose digits are the given characters; none if one is no digit or one is left over. -/
def bytes? : List Char → Option ByteString
  | [] => some []
  | [_] => none
  | high :: low :: rest =>
    match value? high, value? low, bytes? rest with
    | some highValue, some lowValue, some restBytes =>
      some (((highValue <<< 4) ||| lowValue) :: restBytes)
    | _, _, _ => none

/-- The hexadecimal text of a byte string, two lower-case digits a byte. -/
def encode (bytes : ByteString) : String :=
  String.ofList (digits bytes)

/-- The byte string that a hexadecimal text stands for. -/
def decode? (text : String) : Option ByteString :=
  bytes? text.toList

end Hexadecimal

end KeyCustody

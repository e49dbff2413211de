import KeyCustody.ByteString

/-!
# Unpadded base 64

The standard alphabet without padding, as credential strings use it. Every byte string has exactly one
text: reading refuses characters outside the alphabet, a single left-over character, and left-over bits
that are not zero.
-/

namespace KeyCustody

namespace Base64

/-- The character of a number below 64. -/
def digit (value : Nat) : Char :=
  if value < 26 then Char.ofNat (65 + value)
  else if value < 52 then Char.ofNat (71 + value)
  else if value < 62 then Char.ofNat (value - 4)
  else if value = 62 then '+'
  else '/'

/-- The number that a character stands for. -/
def value? (character : Char) : Option Nat :=
  if 'A' ≤ character ∧ character ≤ 'Z' then some (character.toNat - 65)
  else if 'a' ≤ character ∧ character ≤ 'z' then some (character.toNat - 71)
  else if '0' ≤ character ∧ character ≤ '9' then some (character.toNat + 4)
  else if character = '+' then some 62
  else if character = '/' then some 63
  else none

/-- The characters of a byte string: four for three bytes, and two or three for the rest. -/
def digits : ByteString → List Char
  | [] => []
  | [b0] =>
    let bits := b0.toNat
    [digit (bits / 4), digit (bits % 4 * 16)]
  | [b0, b1] =>
    let bits := b0.toNat * 256 + b1.toNat
    [digit (bits / 1024), digit (bits / 16 % 64), digit (bits % 16 * 4)]
  | b0 :: b1 :: b2 :: rest =>
    let bits := b0.toNat * 65536 + b1.toNat * 256 + b2.toNat
    digit (bits / 262144) :: digit (bits / 4096 % 64) :: digit (bits / 64 % 64) ::
      digit (bits % 64) :: digits rest

/-- The bytes that numbers below 64 stand for; none if a number or bits are left over. -/
def bytes? : List Nat → Option ByteString
  | [] => some []
  | [_] => none
  | [v0, v1] =>
    if v1 % 16 = 0 then some [(v0 * 4 + v1 / 16).toUInt8] else none
  | [v0, v1, v2] =>
    if v2 % 4 = 0 then
      some [(v0 * 4 + v1 / 16).toUInt8, (v1 % 16 * 16 + v2 / 4).toUInt8]
    else none
  | v0 :: v1 :: v2 :: v3 :: rest =>
    (bytes? rest).map fun restBytes =>
      (v0 * 4 + v1 / 16).toUInt8 :: (v1 % 16 * 16 + v2 / 4).toUInt8 ::
        (v2 % 4 * 64 + v3).toUInt8 :: restBytes

/-- The text of a byte string. -/
def encode (bytes : ByteString) : String :=
  String.ofList (digits bytes)

/-- The byte string of a text. -/
def decode? (text : String) : Option ByteString :=
  (text.toList.mapM value?).bind bytes?

end Base64

end KeyCustody

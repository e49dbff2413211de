import KeyCustody.Hexadecimal
import KeyCustody.Text.Utf8

/-!
# Percent encoding

Text in which a percent sign and two hexadecimal digits stand for a byte, and the fields of a query,
which are encoded this way with plus signs for spaces.
-/

namespace KeyCustody.Text

/-- The byte that two characters given by their codes stand for as hexadecimal digits. -/
def digitPair? (high low : UInt8) : Option UInt8 :=
  match Hexadecimal.value? (Char.ofNat high.toNat), Hexadecimal.value? (Char.ofNat low.toNat) with
  | some highValue, some lowValue => some ((highValue <<< 4) ||| lowValue)
  | _, _ => none

/-- The bytes that percent-encoded bytes stand for. A percent sign without two digits after it stands
for itself. -/
def percentDecode : ByteString → ByteString
  | [] => []
  | [byte] => [byte]
  | [first, second] => [first, second]
  | first :: high :: low :: rest =>
    if first = 0x25 then
      match digitPair? high low with
      | some byte => byte :: percentDecode rest
      | none => first :: percentDecode (high :: low :: rest)
    else first :: percentDecode (high :: low :: rest)

/-- The text of a name or value in a query. -/
def queryText (bytes : ByteString) : String :=
  ofUtf8Repaired (percentDecode (bytes.map fun byte => if byte = 0x2B then 0x20 else byte))

/-- The name and value of a field of a query, divided by the first equals sign. -/
def queryField (bytes : ByteString) : String × String :=
  (queryText (bytes.takeWhile (· != 0x3D)), queryText ((bytes.dropWhile (· != 0x3D)).drop 1))

/-- The names and values of a query, whose fields are divided by ampersands. Empty fields do not
count. -/
def queryFields (query : String) : List (String × String) :=
  (((ByteString.ofText query).splitOn 0x26).filter (· ≠ [])).map queryField

end KeyCustody.Text

/-!
# Numerals

Whole numbers that people type into variables and options: decimal digits after an optional plus sign.
-/

namespace KeyCustody.Text

/-- The number that decimal digits stand for. -/
def decimal (digits : List Char) : Nat :=
  digits.foldl (fun value digit => value * 10 + (digit.toNat - 48)) 0

/-- The number that a list of decimal digits stands for, if it is one. -/
def digits? (characters : List Char) : Option Nat :=
  if characters ≠ [] ∧ characters.all Char.isDigit then some (decimal characters) else none

/-- The number that a numeral stands for, if it is below a bound. -/
def numeralBelow? (bound : Nat) (text : String) : Option Nat :=
  let unsigned := match text.toList with
    | '+' :: rest => rest
    | characters => characters
  match digits? unsigned with
  | some value => if value < bound then some value else none
  | none => none

/-- The number below 256 that a numeral stands for. -/
def byte? (text : String) : Option UInt8 :=
  (numeralBelow? 256 text).map Nat.toUInt8

/-- The number below 65536 that a numeral stands for. -/
def port? (text : String) : Option UInt16 :=
  (numeralBelow? 65536 text).map Nat.toUInt16

end KeyCustody.Text

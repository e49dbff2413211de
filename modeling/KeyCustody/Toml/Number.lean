import KeyCustody.Binary64
import KeyCustody.Document

/-!
# Numbers in TOML

Whole numbers of 64 bits, in decimal or, with a prefix, in another base, and floats. An underscore may
stand between two digits.
-/

namespace KeyCustody.Toml

/-- Whether a character is a decimal digit. -/
def isDigit (character : Char) : Bool :=
  '0' ≤ character && character ≤ '9'

/-- Whether a character is a digit of a base up to sixteen. -/
def isDigitOf (base : Nat) (character : Char) : Bool :=
  if isDigit character then character.toNat - 48 < base
  else base == 16 && (('a' ≤ character && character ≤ 'f') || ('A' ≤ character && character ≤ 'F'))

/-- The number that digits of a base stand for. -/
def numberOf (base : Nat) (digits : List Char) : Nat :=
  digits.foldl (fun value digit => value * base +
    (if isDigit digit then digit.toNat - 48 else digit.toLower.toNat - 87)) 0

/-- The digits that follow a digit, without the underscores between them, and what follows them. -/
def moreDigits? (base : Nat) : List Char → Option (List Char × List Char)
  | [] => some ([], [])
  | '_' :: digit :: rest =>
    if isDigitOf base digit then
      (moreDigits? base rest).map fun (digits, after) => (digit :: digits, after)
    else none
  | character :: rest =>
    if isDigitOf base character then
      (moreDigits? base rest).map fun (digits, after) => (character :: digits, after)
    else if character = '_' then none
    else some ([], character :: rest)

/-- One digit or more, and what follows them. -/
def digits? (base : Nat) : List Char → Option (List Char × List Char)
  | digit :: rest =>
    if isDigitOf base digit then
      (moreDigits? base rest).map fun (digits, after) => (digit :: digits, after)
    else none
  | [] => none

/-- Whether a minus sign stands in front, and what follows the sign. -/
def afterSign : List Char → Bool × List Char
  | '-' :: rest => (true, rest)
  | '+' :: rest => (false, rest)
  | text => (false, text)

/-- The digits of a whole number, of which only zero itself starts with zero, and what follows them. -/
def wholeDigits? : List Char → Option (List Char × List Char)
  | '0' :: rest => some (['0'], rest)
  | text => digits? 10 text

/-- The whole numbers of 64 bits lie from the opposite of this number up to below it. -/
def integerBound : Int := 0x8000000000000000

/-- A whole number, if it fits into 64 bits. -/
def integer? (value : Int) : Option Document :=
  if -integerBound ≤ value ∧ value < integerBound then some (.integer value) else none

/-- The digits after a decimal point, if there is one, and what follows them. -/
def fractionDigits? : List Char → Option (List Char × List Char)
  | '.' :: rest => digits? 10 rest
  | text => some ([], text)

/-- The exponent, if there is one, and what follows it. -/
def exponent? : List Char → Option (Int × List Char)
  | character :: rest =>
    if character = 'e' ∨ character = 'E' then do
      let (isNegative, unsigned) := afterSign rest
      let (digits, after) ← digits? 10 unsigned
      let value : Int := numberOf 10 digits
      return (if isNegative then -value else value, after)
    else some (0, character :: rest)
  | [] => some (0, [])

/-- Whether a fraction or an exponent comes next. -/
def continuesAsFloat : List Char → Bool
  | character :: _ => character == '.' || character == 'e' || character == 'E'
  | [] => false

/-- A decimal number after its sign, and what follows it. A positive float that is too large is
refused. -/
def decimal? (isNegative : Bool) (text : List Char) : Option (Document × List Char) := do
  let (whole, afterWhole) ← wholeDigits? text
  if continuesAsFloat afterWhole then
    let (fraction, afterFraction) ← fractionDigits? afterWhole
    let (exponent, rest) ← exponent? afterFraction
    let digits := whole ++ fraction
    let isTooLarge :=
      Binary64.overflows (numberOf 10 digits) digits.length (exponent - fraction.length)
    if isTooLarge && !isNegative then none else return (.fraction, rest)
  else
    let value : Int := numberOf 10 whole
    return (← integer? (if isNegative then -value else value), afterWhole)

/-- A number in another base after its prefix, and what follows it. -/
def inBase? (base : Nat) (text : List Char) : Option (Document × List Char) := do
  let (digits, rest) ← digits? base text
  return (← integer? (numberOf base digits), rest)

/-- A number, and what follows it. -/
def number? (text : List Char) : Option (Document × List Char) :=
  match text with
  | '0' :: 'x' :: rest => inBase? 16 rest
  | '0' :: 'o' :: rest => inBase? 8 rest
  | '0' :: 'b' :: rest => inBase? 2 rest
  | _ =>
    let (isNegative, unsigned) := afterSign text
    match unsigned with
    | 'i' :: 'n' :: 'f' :: rest => some (.fraction, rest)
    | 'n' :: 'a' :: 'n' :: rest => some (.fraction, rest)
    | _ => decimal? isNegative unsigned

end KeyCustody.Toml

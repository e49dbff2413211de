import KeyCustody.Binary64
import KeyCustody.ByteString

/-!
# JSON text

What the body of a request is checked against: the JSON grammar over bytes. Every scanner takes a part
off the front and returns what follows it. Nested values are skipped with an explicit stack of open
brackets, so their depth does not matter.
-/

namespace KeyCustody

namespace JsonText

/-- The byte of an ASCII character. -/
def code (character : Char) : UInt8 := character.toNat.toUInt8

/-- Whether a byte may stand between the parts of JSON text. -/
def isSpace (byte : UInt8) : Bool :=
  byte == 0x20 || byte == 0x0A || byte == 0x0D || byte == 0x09

/-- The text without leading space. -/
def skipSpace (text : ByteString) : ByteString :=
  text.dropWhile isSpace

/-- Whether a byte is a decimal digit. -/
def isDigit (byte : UInt8) : Bool :=
  code '0' ≤ byte && byte ≤ code '9'

/-- The value of a hexadecimal digit. -/
def hexValue? (byte : UInt8) : Option Nat :=
  if isDigit byte then some (byte.toNat - 48)
  else if code 'a' ≤ byte ∧ byte ≤ code 'f' then some (byte.toNat - 87)
  else if code 'A' ≤ byte ∧ byte ≤ code 'F' then some (byte.toNat - 55)
  else none

/-- The number that four hexadecimal digits stand for, and what follows them. -/
def fourDigits? : ByteString → Option (Nat × ByteString)
  | b0 :: b1 :: b2 :: b3 :: rest => do
    return ((((← hexValue? b0) * 16 + (← hexValue? b1)) * 16 + (← hexValue? b2)) * 16 +
      (← hexValue? b3), rest)
  | _ => none

/-- What an escape of one letter stands for. -/
def simpleEscape? (byte : UInt8) : Option UInt8 :=
  if byte = code '"' ∨ byte = code '\\' ∨ byte = code '/' then some byte
  else if byte = code 'b' then some 0x08
  else if byte = code 'f' then some 0x0C
  else if byte = code 'n' then some 0x0A
  else if byte = code 'r' then some 0x0D
  else if byte = code 't' then some 0x09
  else none

/-- The UTF-8 bytes of a code point. -/
def utf8Of (point : Nat) : ByteString :=
  ByteString.ofText (String.singleton (Char.ofNat point))

/-- The second half of a pair of surrogates, written as an escape. -/
def lowSurrogate? (text : ByteString) : Option (Nat × ByteString) :=
  match text with
  | backslash :: letter :: rest =>
    if backslash = code '\\' ∧ letter = code 'u' then
      match fourDigits? rest with
      | some (unit, after) => if 0xDC00 ≤ unit ∧ unit ≤ 0xDFFF then some (unit, after) else none
      | none => none
    else none
  | _ => none

/-- The code point of an escape after its backslash and `u`: one unit, or a pair of surrogates. -/
def unicodeEscape? (text : ByteString) : Option (Nat × ByteString) :=
  match fourDigits? text with
  | none => none
  | some (unit, rest) =>
    if 0xD800 ≤ unit ∧ unit ≤ 0xDBFF then
      (lowSurrogate? rest).map fun (low, after) =>
        (0x10000 + (unit - 0xD800) * 0x400 + (low - 0xDC00), after)
    else if 0xDC00 ≤ unit ∧ unit ≤ 0xDFFF then none
    else some (unit, rest)

/-- The bytes of a string after its opening quote, in reverse before those read already, and what
follows the closing quote. -/
def readStringLoop : Nat → ByteString → ByteString → Option (ByteString × ByteString)
  | 0, _, _ => none
  | _ + 1, [], _ => none
  | fuel + 1, byte :: rest, read =>
    if byte = code '"' then some (read.reverse, rest)
    else if byte = code '\\' then
      match rest with
      | [] => none
      | letter :: after =>
        if letter = code 'u' then
          match unicodeEscape? after with
          | some (point, next) => readStringLoop fuel next ((utf8Of point).reverse ++ read)
          | none => none
        else
          match simpleEscape? letter with
          | some escaped => readStringLoop fuel after (escaped :: read)
          | none => none
    else if byte < 0x20 then none
    else readStringLoop fuel rest (byte :: read)

/-- The text of a string after its opening quote, which has to be valid UTF-8, and what follows it. -/
def readString? (text : ByteString) : Option (String × ByteString) :=
  match readStringLoop (text.length + 1) text [] with
  | some (bytes, rest) => (String.fromUTF8? ⟨bytes.toArray⟩).map fun read => (read, rest)
  | none => none

/-- What follows a string after its opening quote. Escaped units need not pair up, and bytes need not
be valid UTF-8. -/
def skipStringLoop : Nat → ByteString → Option ByteString
  | 0, _ => none
  | _ + 1, [] => none
  | fuel + 1, byte :: rest =>
    if byte = code '"' then some rest
    else if byte = code '\\' then
      match rest with
      | [] => none
      | letter :: after =>
        if letter = code 'u' then
          match fourDigits? after with
          | some (_, next) => skipStringLoop fuel next
          | none => none
        else if (simpleEscape? letter).isSome then skipStringLoop fuel after
        else none
    else if byte < 0x20 then none
    else skipStringLoop fuel rest

/-- What follows a string after its opening quote. -/
def skipString? (text : ByteString) : Option ByteString :=
  skipStringLoop (text.length + 1) text

/-- A number: its digits before and after the point, its exponent, and what follows it. -/
structure NumberText where
  whole : ByteString
  fraction : ByteString
  exponent : Int
  rest : ByteString

/-- The number that decimal digits stand for. -/
def decimal (digits : ByteString) : Nat :=
  digits.foldl (fun value digit => value * 10 + (digit.toNat - 48)) 0

/-- Takes the fraction off, if there is one. -/
def readFraction? : ByteString → Option (ByteString × ByteString)
  | byte :: rest =>
    if byte = code '.' then
      let digits := rest.takeWhile isDigit
      if digits = [] then none else some (digits, rest.dropWhile isDigit)
    else some ([], byte :: rest)
  | [] => some ([], [])

/-- Takes the sign of an exponent off, if there is one. -/
def readSign : ByteString → Bool × ByteString
  | byte :: rest =>
    if byte = code '-' then (true, rest)
    else if byte = code '+' then (false, rest)
    else (false, byte :: rest)
  | [] => (false, [])

/-- Takes the exponent off, if there is one. -/
def readExponent? : ByteString → Option (Int × ByteString)
  | byte :: rest =>
    if byte = code 'e' ∨ byte = code 'E' then
      let (isNegative, after) := readSign rest
      let digits := after.takeWhile isDigit
      if digits = [] then none
      else
        let value : Int := decimal digits
        some (if isNegative then -value else value, after.dropWhile isDigit)
    else some (0, byte :: rest)
  | [] => some (0, [])

/-- Reads a number after its sign. A zero is followed by no further digit. -/
def readNumber? (text : ByteString) : Option NumberText := do
  let whole := text.takeWhile isDigit
  guard (whole ≠ [] ∧ (whole.length = 1 ∨ whole.head? ≠ some (code '0')))
  let (fraction, afterFraction) ← readFraction? (text.dropWhile isDigit)
  let (exponent, rest) ← readExponent? afterFraction
  return { whole, fraction, exponent, rest }

/-- Whether a number is too large for a binary64 float. -/
def NumberText.isTooLarge (number : NumberText) : Bool :=
  Binary64.overflows (decimal (number.whole ++ number.fraction))
    (number.whole.length + number.fraction.length) (number.exponent - number.fraction.length)

/-- What follows a given word. -/
def skipWord? (word : String) (text : ByteString) : Option ByteString :=
  let bytes := ByteString.ofText word
  if text.take bytes.length = bytes then some (text.drop bytes.length) else none

/-- What follows a value that has no parts. -/
def skipScalar? : ByteString → Option ByteString
  | [] => none
  | byte :: rest =>
    if byte = code '"' then skipString? rest
    else if byte = code 'n' then skipWord? "ull" rest
    else if byte = code 't' then skipWord? "rue" rest
    else if byte = code 'f' then skipWord? "alse" rest
    else if byte = code '-' then (readNumber? rest).map (·.rest)
    else (readNumber? (byte :: rest)).map (·.rest)

/-- An open bracket. -/
inductive Bracket where
  | array
  | object
deriving DecidableEq, Repr

/-- What may come next in a value that is being skipped. -/
inductive Expected where
  | value
  | firstPart
  | nextPart
deriving DecidableEq, Repr

/-- What follows a key and its colon. -/
def skipKey? (text : ByteString) : Option ByteString :=
  match skipSpace text with
  | byte :: rest =>
    if byte = code '"' then
      match (skipString? rest).map skipSpace with
      | some (colon :: after) => if colon = code ':' then some after else none
      | _ => none
    else none
  | [] => none

/-- What follows the value that encloses the open brackets. -/
def skipLoop : Nat → Expected → List Bracket → ByteString → Option ByteString
  | 0, _, _, _ => none
  | _ + 1, .nextPart, [], text => some text
  | _ + 1, .firstPart, [], _ => none
  | fuel + 1, .value, brackets, text =>
    match skipSpace text with
    | [] => none
    | byte :: rest =>
      if byte = code '[' then skipLoop fuel .firstPart (.array :: brackets) rest
      else if byte = code '\x7b' then skipLoop fuel .firstPart (.object :: brackets) rest
      else
        match skipScalar? (byte :: rest) with
        | some after => skipLoop fuel .nextPart brackets after
        | none => none
  | fuel + 1, .firstPart, bracket :: brackets, text =>
    match bracket, skipSpace text with
    | _, [] => none
    | .array, byte :: rest =>
      if byte = code ']' then skipLoop fuel .nextPart brackets rest
      else skipLoop fuel .value (.array :: brackets) (byte :: rest)
    | .object, byte :: rest =>
      if byte = code '\x7d' then skipLoop fuel .nextPart brackets rest
      else
        match skipKey? (byte :: rest) with
        | some after => skipLoop fuel .value (.object :: brackets) after
        | none => none
  | fuel + 1, .nextPart, bracket :: brackets, text =>
    match bracket, skipSpace text with
    | _, [] => none
    | .array, byte :: rest =>
      if byte = code ']' then skipLoop fuel .nextPart brackets rest
      else if byte = code ',' then skipLoop fuel .value (.array :: brackets) rest
      else none
    | .object, byte :: rest =>
      if byte = code '\x7d' then skipLoop fuel .nextPart brackets rest
      else if byte = code ',' then
        match skipKey? rest with
        | some after => skipLoop fuel .value (.object :: brackets) after
        | none => none
      else none

/-- What follows a value. Every two steps take at least one byte off the text. -/
def skipValue? (text : ByteString) : Option ByteString :=
  skipLoop (2 * text.length + 2) .value [] text

end JsonText

end KeyCustody

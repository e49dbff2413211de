import KeyCustody.Toml.Layout

/-!
# Texts in TOML

A text stands between quotes. Between double quotes escapes are resolved, between single quotes
everything stands for itself; three quotes let the text run over several lines.
-/

namespace KeyCustody.Toml

/-- The value of a hexadecimal digit. -/
def hexDigit? (character : Char) : Option Nat :=
  if '0' ≤ character ∧ character ≤ '9' then some (character.toNat - 48)
  else if 'a' ≤ character ∧ character ≤ 'f' then some (character.toNat - 87)
  else if 'A' ≤ character ∧ character ≤ 'F' then some (character.toNat - 55)
  else none

/-- The character whose code point is given by hexadecimal digits. -/
def charOfDigits? (digits : List Char) : Option Char := do
  let values ← digits.mapM hexDigit?
  let point := values.foldl (fun point value => point * 16 + value) 0
  if point < 0xD800 ∨ (0xE000 ≤ point ∧ point < 0x110000) then return Char.ofNat point else none

/-- What an escape of one letter stands for. -/
def simpleEscape? : Char → Option Char
  | 'b' => some '\x08'
  | 't' => some '\t'
  | 'n' => some '\n'
  | 'f' => some '\x0c'
  | 'r' => some '\r'
  | '"' => some '"'
  | '\\' => some '\\'
  | _ => none

/-- What an escape stands for after its backslash, and what follows it. -/
def escape? : List Char → Option (Char × List Char)
  | 'u' :: rest =>
    if (rest.take 4).length = 4 then
      (charOfDigits? (rest.take 4)).map fun character => (character, rest.drop 4)
    else none
  | 'U' :: rest =>
    if (rest.take 8).length = 8 then
      (charOfDigits? (rest.take 8)).map fun character => (character, rest.drop 8)
    else none
  | letter :: rest => (simpleEscape? letter).map fun character => (character, rest)
  | [] => none

/-- The text up to the closing double quote, and what follows it. -/
def basicBody? : Nat → List Char → Option (List Char × List Char)
  | 0, _ => none
  | _ + 1, [] => none
  | _ + 1, '"' :: rest => some ([], rest)
  | fuel + 1, '\\' :: rest => do
    let (character, after) ← escape? rest
    let (body, following) ← basicBody? fuel after
    return (character :: body, following)
  | fuel + 1, character :: rest =>
    if isVisible character then
      (basicBody? fuel rest).map fun (body, following) => (character :: body, following)
    else none

/-- What follows the end of a line that was escaped by a backslash, with every blank and line break up
to the next character; none if no line ends here. -/
def afterEscapedNewline? (text : List Char) : Option (List Char) :=
  (afterNewline? (skipBlanks text)).map skipSpace

/-- The text up to three closing double quotes, and what follows them. Up to two quotes right before
them belong to the text. -/
def longBasicBody? : Nat → List Char → Option (List Char × List Char)
  | 0, _ => none
  | _ + 1, [] => none
  | _ + 1, '"' :: '"' :: '"' :: '"' :: '"' :: rest => some (['"', '"'], rest)
  | _ + 1, '"' :: '"' :: '"' :: '"' :: rest => some (['"'], rest)
  | _ + 1, '"' :: '"' :: '"' :: rest => some ([], rest)
  | fuel + 1, '\\' :: rest =>
    match afterEscapedNewline? rest with
    | some after => longBasicBody? fuel after
    | none => do
      let (character, after) ← escape? rest
      let (body, following) ← longBasicBody? fuel after
      return (character :: body, following)
  | fuel + 1, character :: rest =>
    match afterNewline? (character :: rest) with
    | some after =>
      (longBasicBody? fuel after).map fun (body, following) => ('\n' :: body, following)
    | none =>
      if isVisible character then
        (longBasicBody? fuel rest).map fun (body, following) => (character :: body, following)
      else none

/-- The text up to the closing single quote, and what follows it. -/
def literalBody? : List Char → Option (List Char × List Char)
  | [] => none
  | '\'' :: rest => some ([], rest)
  | character :: rest =>
    if isVisible character then
      (literalBody? rest).map fun (body, following) => (character :: body, following)
    else none

/-- The text up to three closing single quotes, and what follows them. Up to two quotes right before
them belong to the text. -/
def longLiteralBody? : List Char → Option (List Char × List Char)
  | [] => none
  | '\'' :: '\'' :: '\'' :: '\'' :: '\'' :: rest => some (['\'', '\''], rest)
  | '\'' :: '\'' :: '\'' :: '\'' :: rest => some (['\''], rest)
  | '\'' :: '\'' :: '\'' :: rest => some ([], rest)
  | '\r' :: '\n' :: rest =>
    (longLiteralBody? rest).map fun (body, following) => ('\n' :: body, following)
  | character :: rest =>
    if isVisible character || character == '\n' then
      (longLiteralBody? rest).map fun (body, following) => (character :: body, following)
    else none

/-- The text in quotes on one line, and what follows it. -/
def lineText? : List Char → Option (String × List Char)
  | '"' :: rest =>
    (basicBody? (rest.length + 1) rest).map fun (body, after) => (String.ofList body, after)
  | '\'' :: rest =>
    (literalBody? rest).map fun (body, after) => (String.ofList body, after)
  | _ => none

/-- The text in quotes, on one line or several, and what follows it. -/
def quotedText? : List Char → Option (String × List Char)
  | '"' :: '"' :: '"' :: rest =>
    (longBasicBody? (rest.length + 1) (skipNewline rest)).map fun (body, after) =>
      (String.ofList body, after)
  | '\'' :: '\'' :: '\'' :: rest =>
    (longLiteralBody? (skipNewline rest)).map fun (body, after) => (String.ofList body, after)
  | text => lineText? text

end KeyCustody.Toml

import KeyCustody.Service.Server

/-!
# The text of responses

The body of a response as JSON text.
-/

namespace KeyCustody

namespace JsonText

/-- The hexadecimal digit of a number below sixteen. -/
def hexChar (value : Nat) : Char :=
  Char.ofNat (if value < 10 then 48 + value else 87 + value)

/-- The characters that stand for a character inside quotes. -/
def escapedChar (character : Char) : List Char :=
  match character with
  | '"' => ['\\', '"']
  | '\\' => ['\\', '\\']
  | '\n' => ['\\', 'n']
  | '\r' => ['\\', 'r']
  | '\t' => ['\\', 't']
  | '\x08' => ['\\', 'b']
  | '\x0c' => ['\\', 'f']
  | _ =>
    if character < ' ' then
      ['\\', 'u', '0', '0', hexChar (character.toNat / 16), hexChar (character.toNat % 16)]
    else [character]

/-- A text as JSON. -/
def ofText (text : String) : String :=
  String.ofList ('"' :: text.toList.flatMap escapedChar ++ ['"'])

/-- A truth value as JSON. -/
def ofBool : Bool → String
  | true => "true"
  | false => "false"

/-- Fields, whose values are JSON, as an object. -/
def ofFields (fields : List (String × String)) : String :=
  "\x7b" ++ ",".intercalate (fields.map fun field => ofText field.1 ++ ":" ++ field.2) ++ "\x7d"

end JsonText

/-- The text of the body of a response. -/
def ResponseBody.toJson : ResponseBody → String
  | error code message =>
    JsonText.ofFields [("error", JsonText.ofText code), ("message", JsonText.ofText message)]
  | health isSealed =>
    JsonText.ofFields [("status", JsonText.ofText "ok"), ("sealed", JsonText.ofBool isSealed)]
  | unsealed outcome =>
    JsonText.ofFields [("status", JsonText.ofText outcome.status.word),
      ("message", JsonText.ofText outcome.message)]

end KeyCustody

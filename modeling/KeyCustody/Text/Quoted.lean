import KeyCustody.Text.Unprintable

/-!
# Quoted text

Text between quotes, as error reports show it: quotes, backslashes and characters that are not shown as
they are stand as escapes, so that the report stays on one line and the text can be told from what is
around it.
-/

namespace KeyCustody.Text

/-- The hexadecimal digits of a code point, without leading zeros. -/
def pointDigits (point : Nat) : List Char :=
  Nat.toDigits 16 point

/-- The characters that stand for a character inside quotes. -/
def escapedChar (character : Char) : List Char :=
  match character with
  | '\x00' => ['\\', '0']
  | '\t' => ['\\', 't']
  | '\r' => ['\\', 'r']
  | '\n' => ['\\', 'n']
  | '\\' => ['\\', '\\']
  | '"' => ['\\', '"']
  | _ =>
    if isPrintable character then [character]
    else ['\\', 'u', '\x7b'] ++ pointDigits character.toNat ++ ['\x7d']

/-- The text between quotes, with escapes. -/
def quoted (text : String) : String :=
  String.ofList ('"' :: text.toList.flatMap escapedChar ++ ['"'])

end KeyCustody.Text

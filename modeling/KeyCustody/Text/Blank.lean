/-!
# Blank characters

The characters with the Unicode property `White_Space`, and the removal of blanks from both ends of a
text. Text that people copy by hand, such as key pieces and lists of operations, is trimmed this way
before it is read.
-/

namespace KeyCustody.Text

/-- The ranges of code points with the property `White_Space`, ends included. -/
def blankRanges : List (Nat × Nat) :=
  [(0x09, 0x0D), (0x20, 0x20), (0x85, 0x85), (0xA0, 0xA0), (0x1680, 0x1680), (0x2000, 0x200A),
    (0x2028, 0x2029), (0x202F, 0x202F), (0x205F, 0x205F), (0x3000, 0x3000)]

/-- Whether a character is blank. -/
def isBlank (character : Char) : Bool :=
  blankRanges.any fun range => range.1 ≤ character.toNat && character.toNat ≤ range.2

/-- The characters without the blank ones at either end. -/
def trimChars (characters : List Char) : List Char :=
  ((characters.dropWhile isBlank).reverse.dropWhile isBlank).reverse

/-- The text without the blank characters at either end. -/
def trim (text : String) : String :=
  String.ofList (trimChars text.toList)

/-- The text with its ASCII letters in lower case and every other character as it is. -/
def lowercase (text : String) : String :=
  String.ofList (text.toList.map Char.toLower)

end KeyCustody.Text

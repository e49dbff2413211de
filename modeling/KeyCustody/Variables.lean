import KeyCustody.Text.Utf8

/-!
# Environment variables

The variables that the program is started with. Their values need not be text; a variable that holds
something else counts as not set.
-/

namespace KeyCustody

/-- The variables of an environment with their values. -/
abbrev Variables := List (String × ByteString)

namespace Variables

/-- The value of a variable, if it is set to text. -/
def text? (given : Variables) (name : String) : Option String :=
  match given.lookup name with
  | some bytes => (Text.ofUtf8 bytes).toOption
  | none => none

/-- The value of a variable, if it is set to text that is not empty. -/
def value? (given : Variables) (name : String) : Option String :=
  (given.text? name).filter (· ≠ "")

/-- The variables with one more set, unless it is set to text already. -/
def setIfAbsent (given : Variables) (name value : String) : Variables :=
  match given.text? name with
  | some _ => given
  | none => (name, ByteString.ofText value) :: given

end Variables

end KeyCustody

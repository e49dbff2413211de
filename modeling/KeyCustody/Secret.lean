import KeyCustody.ByteSupply

/-!
# Secrets

Values that must not show in logs or answers. Whatever prints or serialises a secret writes the same
marker in place of the value; the value comes out only where it is asked for by name.
-/

namespace KeyCustody

/-- What stands in place of a secret value. -/
def redacted : String := "[REDACTED]"

/-- A value that is never shown. -/
structure Secret (Value : Type) where
  expose : Value

namespace Secret

variable {Value : Type}

/-- The plain text of a secret. -/
def display (_ : Secret Value) : String := redacted

/-- The text of a secret in logs. -/
def shown (_ : Secret Value) : String :=
  "Secret(\"" ++ redacted ++ "\")"

/-- The text of an optional secret in logs that spread nested values over lines. -/
def shownNested (_ : Secret Value) : String :=
  "Some(\n    Secret(\n        \"" ++ redacted ++ "\",\n    ),\n)"

/-- The text that stands for a secret in serialised data. -/
def serialized (_ : Secret Value) : String := redacted

/-- Appends to a secret text. -/
def append (secret : Secret String) (text : String) : Secret String :=
  ⟨secret.expose ++ text⟩

end Secret

/-- A buffer of secret bytes, compared in constant time and wiped after use. -/
structure SecretBuffer where
  bytes : ByteString
deriving DecidableEq

namespace SecretBuffer

/-- A buffer of drawn bytes. -/
def random {Supply : Type} [ByteSupply Supply] (size : Nat) (supply : Supply) :
    SecretBuffer × Supply :=
  let (bytes, afterBytes) := ByteSupply.draw size supply
  (⟨bytes⟩, afterBytes)

/-- Whether the buffer holds the given bytes. -/
def holds (buffer : SecretBuffer) (bytes : ByteString) : Bool :=
  buffer.bytes == bytes

/-- The buffer with every byte replaced by one value. -/
def fill (buffer : SecretBuffer) (value : UInt8) : SecretBuffer :=
  ⟨buffer.bytes.map fun _ => value⟩

/-- The buffer after wiping: nothing is left. -/
def wipe (_ : SecretBuffer) : SecretBuffer := ⟨[]⟩

/-- The text of a buffer in logs: its size alone. -/
def shown (buffer : SecretBuffer) : String :=
  "SecretBuffer \x7b len: " ++ toString buffer.bytes.length ++ ", bytes: \"" ++ redacted ++ "\" \x7d"

end SecretBuffer

end KeyCustody

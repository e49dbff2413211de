import KeyCustody.ByteSupply
import KeyCustody.Cipher.Gcm
import KeyCustody.Hexadecimal
import KeyCustody.KeyError

/-!
# Keys and wrapped keys

Keys have 32 bytes and are drawn at random. A key is wrapped by sealing it under another key; the
wrapped key is the drawn nonce followed by the sealed bytes, so that unwrapping needs nothing else.
-/

namespace KeyCustody

/-- The number of bytes of a key. -/
def keySize : Nat := 32

/-- The number of bytes of the salt of a user's key. -/
def saltSize : Nat := 16

section

variable {Supply : Type} [ByteSupply Supply]

/-- A fresh key. -/
def generateKey (supply : Supply) : ByteString × Supply :=
  ByteSupply.draw keySize supply

/-- A fresh salt. -/
def generateSalt (supply : Supply) : ByteString × Supply :=
  ByteSupply.draw saltSize supply

end

/-- A wrapped key: a nonce and a sealed key. -/
structure WrappedKey where
  bytes : ByteString
deriving DecidableEq

namespace WrappedKey

/-- The hexadecimal text of a wrapped key. -/
def toHexadecimal (wrapped : WrappedKey) : String :=
  Hexadecimal.encode wrapped.bytes

/-- Reads a wrapped key from hexadecimal text. -/
def ofHexadecimal (text : String) : Except KeyError WrappedKey :=
  match Hexadecimal.decode? text with
  | some bytes => .ok ⟨bytes⟩
  | none => .error (.invalidInput "wrapped key is not valid hex")

/-- Wraps a key under another. A nonce is drawn only when both have the right size. -/
def wrap {Supply : Type} [ByteSupply Supply] (wrappingKey payloadKey : ByteString)
    (supply : Supply) : Except KeyError WrappedKey × Supply :=
  if wrappingKey.length ≠ keySize then (.error (.invalidKeySize wrappingKey.length), supply)
  else if payloadKey.length ≠ keySize then (.error (.invalidKeySize payloadKey.length), supply)
  else
    let (nonce, afterNonce) := ByteSupply.draw Gcm.nonceSize supply
    (.ok ⟨nonce ++ Gcm.encrypt wrappingKey nonce payloadKey⟩, afterNonce)

/-- Takes the key out of a wrapped key. -/
def unwrap (wrappingKey : ByteString) (wrapped : WrappedKey) : Except KeyError ByteString :=
  if wrappingKey.length ≠ keySize then .error (.invalidKeySize wrappingKey.length)
  else if wrapped.bytes.length < Gcm.nonceSize then
    .error (.invalidInput
      s!"wrapped key must be at least {Gcm.nonceSize} bytes, got {wrapped.bytes.length}")
  else
    match Gcm.decrypt? wrappingKey (wrapped.bytes.take Gcm.nonceSize)
        (wrapped.bytes.drop Gcm.nonceSize) with
    | some key => .ok key
    | none => .error .decryptFailed

/-- The text that shows a wrapped key in logs: its bytes in decimal. -/
def shown (wrapped : WrappedKey) : String :=
  let bytes := ", ".intercalate (wrapped.bytes.map fun byte => toString byte.toNat)
  "WrappedKey \x7b bytes: [" ++ bytes ++ "] \x7d"

end WrappedKey

end KeyCustody

import KeyCustody.SealedStream.OpeningReader
import KeyCustody.SealedStream.SealingReader

/-!
# Envelopes

A payload is sealed under a key of its own, which is stored beside it wrapped under the owner's key.
Whoever has the owner's key unwraps the payload's key and opens the stream with it.
-/

namespace KeyCustody

namespace Envelope

open SealedStream

/-- Seals a payload: the wrapped key of the payload, and a reader of the sealed stream. -/
def start {Supply : Type} [ByteSupply Supply] (ownerKey : ByteString) (payload : Source)
    (supply : Supply) : Except KeyError (WrappedKey × SealingReader) × Supply :=
  let (payloadKey, afterKey) := generateKey supply
  match WrappedKey.wrap ownerKey payloadKey afterKey with
  | (.error error, afterWrap) => (.error error, afterWrap)
  | (.ok wrapped, afterWrap) =>
    match SealingReader.start payload payloadKey chunkSize afterWrap with
    | (.error error, afterStart) => (.error error, afterStart)
    | (.ok reader, afterStart) => (.ok (wrapped, reader), afterStart)

/-- A reader of the payload of an envelope. -/
def reopen (ownerKey : ByteString) (wrapped : WrappedKey) (ciphertext : Source) :
    Except KeyError OpeningReader :=
  match wrapped.unwrap ownerKey with
  | .error error => .error error
  | .ok payloadKey => OpeningReader.start ciphertext payloadKey chunkSize

end Envelope

end KeyCustody

import KeyCustody.Cipher.Gcm
import KeyCustody.SealedStream.Source

/-!
# Chunks of a sealed stream

A payload of any size is sealed in chunks. The stream starts with a random label of seven bytes. The
nonce of a chunk is the label, the number of the chunk in four bytes, and a flag that is one for the
last chunk only, so no chunk can be moved, left out or taken from another stream unnoticed. The highest
number is kept for a last chunk.
-/

namespace KeyCustody

namespace SealedStream

/-- The number of payload bytes of every chunk but the last. -/
def chunkSize : Nat := 65536

/-- The number of bytes of the label at the start of a stream. -/
def labelSize : Nat := 7

/-- The number of the last chunk that a stream can have. -/
def lastNumber : UInt32 := 0xFFFFFFFF

/-- The nonce of a chunk. -/
def chunkNonce (label : ByteString) (number : UInt32) (isLast : Bool) : ByteString :=
  label ++ ByteString.ofUInt32BE number ++ [if isLast then 1 else 0]

/-- A sealed chunk. -/
def sealedChunk (key label : ByteString) (number : UInt32) (isLast : Bool) (chunk : ByteString) :
    ByteString :=
  Gcm.encrypt key (chunkNonce label number isLast) chunk

/-- The payload of a sealed chunk, if the chunk is authentic at this place. -/
def openedChunk? (key label : ByteString) (number : UInt32) (isLast : Bool) (sealed : ByteString) :
    Option ByteString :=
  Gcm.decrypt? key (chunkNonce label number isLast) sealed

end SealedStream

/-- Why a read of a sealing or an opening reader failed. -/
inductive StreamError where
  | source (fault : ReadFault)
  | notAuthentic
  /-- The payload needs more chunks than there are numbers. -/
  | chunkLimitExceeded
deriving DecidableEq, Repr

namespace StreamError

/-- The wording of the error. -/
def message : StreamError → String
  | source fault => fault.message
  | notAuthentic => "decryption failed"
  | chunkLimitExceeded => "internal error: stream chunk limit exceeded"

end StreamError

end KeyCustody

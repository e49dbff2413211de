import KeyCustody.SealedStream.Chunk
import KeyCustody.SealedStream.Output
import KeyCustody.WrappedKey

/-!
# The opening reader

Reading from it yields the payload of the sealed stream that its source delivers. A chunk is handed out
only after it was found authentic as a whole. The byte after a chunk tells whether the chunk is the
last. Any failure, of the source too, is final: the reader fails from then on and never reports an end.
-/

namespace KeyCustody

namespace SealedStream

/-- How far an opening reader has come. -/
inductive Progress where
  | label
  /-- Chunks are being read: the label, and the number of the next chunk. -/
  | chunks (label : ByteString) (number : UInt32)
  | complete
  | failed
deriving DecidableEq, Repr

/-- The state of an opening reader. -/
structure OpeningReader where
  source : Source
  key : ByteString
  progress : Progress
  /-- The number of payload bytes of a full chunk. -/
  size : Nat
  /-- Sealed bytes that have arrived and are not yet opened. -/
  ciphertext : ByteString
  output : ByteString
  position : Nat

namespace OpeningReader

/-- An opening reader over a source. -/
def start (source : Source) (key : ByteString) (size : Nat) : Except KeyError OpeningReader :=
  if key.length ≠ keySize then .error (.invalidKeySize key.length)
  else
    .ok
      { source, key, size,
        progress := .label, ciphertext := [], output := [], position := 0 }

/-- Reads the label of the stream. -/
def refillLabel (reader : OpeningReader) : Option StreamError × OpeningReader :=
  let filling := reader.source.fill labelSize
  let failed :=
    { reader with source := filling.source, progress := .failed, output := [], position := 0 }
  match filling.fault with
  | some fault => (some (.source fault), failed)
  | none =>
    if filling.received.length < labelSize then (some .notAuthentic, failed)
    else (none, { failed with progress := .chunks filling.received 0 })

/-- Opens the next chunk into the output. -/
def refillChunk (reader : OpeningReader) (label : ByteString) (number : UInt32) :
    Option StreamError × OpeningReader :=
  let sealedSize := reader.size + Gcm.tagSize
  let filling := reader.source.fill (sealedSize + 1 - reader.ciphertext.length)
  let ciphertext := reader.ciphertext ++ filling.received
  let failed :=
    { reader with
      source := filling.source, progress := .failed, ciphertext, output := [], position := 0 }
  match filling.fault with
  | some fault => (some (.source fault), failed)
  | none =>
    if ciphertext.length > sealedSize then
      if number = lastNumber then (some .notAuthentic, failed)
      else
        match openedChunk? reader.key label number false (ciphertext.take sealedSize) with
        | none => (some .notAuthentic, failed)
        | some chunk =>
          (none,
            { failed with
              progress := .chunks label (number + 1)
              ciphertext := ciphertext.drop sealedSize
              output := chunk })
    else
      match openedChunk? reader.key label number true ciphertext with
      | none => (some .notAuthentic, failed)
      | some chunk =>
        (none, { failed with progress := .complete, ciphertext := [], output := chunk })

/-- One read with room for at least one byte, after at most `fuel` refills. -/
def readLoop (room : Nat) : Nat → OpeningReader → Except StreamError ByteString × OpeningReader
  | fuel, reader =>
    if reader.position < reader.output.length then
      let (handed, position) := drain reader.output reader.position room
      (.ok handed, { reader with position })
    else
      match reader.progress, fuel with
      | .complete, _ => (.ok [], reader)
      | .failed, _ => (.error .notAuthentic, reader)
      | _, 0 => (.error .notAuthentic, { reader with progress := .failed })
      | .label, fuel + 1 =>
        match reader.refillLabel with
        | (some error, refilled) => (.error error, refilled)
        | (none, refilled) => readLoop room fuel refilled
      | .chunks label number, fuel + 1 =>
        match reader.refillChunk label number with
        | (some error, refilled) => (.error error, refilled)
        | (none, refilled) => readLoop room fuel refilled

/-- One read with room for `room` bytes. No bytes mean that the stream has ended, unless there was no
room. Every refill but the first and the last takes a byte from the source, so their number is
bounded by its weight. -/
def read (reader : OpeningReader) (room : Nat) : Except StreamError ByteString × OpeningReader :=
  if room = 0 then (.ok [], reader)
  else readLoop room (reader.source.weight + reader.ciphertext.length + 3) reader

end OpeningReader

end SealedStream

end KeyCustody

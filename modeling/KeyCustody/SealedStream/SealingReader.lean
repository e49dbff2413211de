import KeyCustody.SealedStream.Chunk
import KeyCustody.SealedStream.Output
import KeyCustody.WrappedKey

/-!
# The sealing reader

Reading from it yields the sealed stream of what its source delivers. It looks one byte past the chunk
at hand to learn whether the chunk is the last, and holds no more than one chunk. A failed read of the
source is passed on once and loses nothing: what had arrived stays in the buffer.
-/

namespace KeyCustody

namespace SealedStream

/-- The state of a sealing reader. -/
structure SealingReader where
  source : Source
  key : ByteString
  label : ByteString
  /-- The number of the next chunk; none once the last chunk has been sealed. -/
  number : Option UInt32
  size : Nat
  plaintext : ByteString
  output : ByteString
  position : Nat

namespace SealingReader

/-- A sealing reader over a source. Its label is drawn once the key has been found to have the right
size. -/
def start {Supply : Type} [ByteSupply Supply] (source : Source) (key : ByteString) (size : Nat)
    (supply : Supply) : Except KeyError SealingReader × Supply :=
  if key.length ≠ keySize then (.error (.invalidKeySize key.length), supply)
  else
    let (label, afterLabel) := ByteSupply.draw labelSize supply
    (.ok
      { source, key, label, size,
        number := some 0, plaintext := [], output := label, position := 0 }, afterLabel)

/-- Seals the next chunk into the output. -/
def refill (reader : SealingReader) (number : UInt32) : Option StreamError × SealingReader :=
  let filling := reader.source.fill (reader.size + 1 - reader.plaintext.length)
  let plaintext := reader.plaintext ++ filling.received
  let filled := { reader with source := filling.source, plaintext, output := [], position := 0 }
  match filling.fault with
  | some fault => (some (.source fault), filled)
  | none =>
    if plaintext.length > reader.size then
      if number = lastNumber then (some .chunkLimitExceeded, filled)
      else
        (none,
          { filled with
            output := sealedChunk reader.key reader.label number false (plaintext.take reader.size)
            plaintext := plaintext.drop reader.size
            number := some (number + 1) })
    else
      (none,
        { filled with
          output := sealedChunk reader.key reader.label number true plaintext
          plaintext := []
          number := none })

/-- One read with room for `room` bytes. No bytes mean that the stream has ended, unless there was no
room. -/
def read (reader : SealingReader) (room : Nat) :
    Except StreamError ByteString × SealingReader :=
  if room = 0 then (.ok [], reader)
  else if reader.position < reader.output.length then
    let (handed, position) := drain reader.output reader.position room
    (.ok handed, { reader with position })
  else
    match reader.number with
    | none => (.ok [], reader)
    | some number =>
      match reader.refill number with
      | (some error, refilled) => (.error error, refilled)
      | (none, refilled) =>
        let (handed, position) := drain refilled.output refilled.position room
        (.ok handed, { refilled with position })

/-- Reads until the stream ends or a read fails, at most `fuel` times, and appends what was read. -/
def readLoop : Nat → SealingReader → List ByteString → Except StreamError ByteString × SealingReader
  | 0, reader, received => (.ok received.reverse.flatten, reader)
  | fuel + 1, reader, received =>
    match reader.read (reader.size + Gcm.tagSize + labelSize) with
    | (.ok [], after) => (.ok received.reverse.flatten, after)
    | (.ok (byte :: bytes), after) => readLoop fuel after ((byte :: bytes) :: received)
    | (.error error, after) => (.error error, after)

/-- Reads the whole stream. Each read but the first and the last takes at least one byte from the source
or from the buffer. -/
def readToEnd (reader : SealingReader) : Except StreamError ByteString × SealingReader :=
  readLoop (reader.source.weight + reader.plaintext.length + 3) reader []

end SealingReader

end SealedStream

end KeyCustody

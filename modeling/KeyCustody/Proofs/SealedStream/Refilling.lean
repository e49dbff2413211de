import KeyCustody.SealedStream.OpeningReader
import KeyCustody.SealedStream.SealingReader

/-!
# What a refill does

Whatever the source brings, a refill of a reader has one of a few outcomes. They are listed here once,
with what arrived, what was decided on it and the reader afterwards, so that a proof about the readers
goes by these cases and not by the branches of the refill. An opening reader whose refill fails is left
failed and with nothing to hand out.
-/

namespace KeyCustody

namespace SealedStream

namespace SealingReader

/-- A sealing reader that has done nothing yet. -/
abbrev initial (source : Source) (key label : ByteString) (size : Nat) : SealingReader :=
  { source, key, label, size,
    number := some 0, plaintext := [], output := label, position := 0 }

theorem start_eq_initial {Supply : Type} [ByteSupply Supply] (source : Source) {key : ByteString}
    (key_length : key.length = keySize) (size : Nat) (supply : Supply) :
    (start source key size supply).1 =
      .ok (initial source key (ByteSupply.draw labelSize supply).1 size) := by
  rw [start, if_neg (not_not_intro key_length)]

/-- What filling the buffer for the next chunk brings. -/
abbrev filling (reader : SealingReader) : Source.Filling :=
  reader.source.fill (reader.size + 1 - reader.plaintext.length)

/-- The outcomes of a refill: the failure, if it fails, and the reader after it. -/
inductive Refilling (reader : SealingReader) (number : UInt32) :
    Option StreamError → SealingReader → Prop where
  | failed {received : ByteString} {source : Source} {fault : ReadFault}
      (filled : reader.filling = ⟨received, source, some fault⟩) :
      Refilling reader number (some (.source fault))
        { reader with
          source, plaintext := reader.plaintext ++ received, output := [], position := 0 }
  | exceeded {received : ByteString} {source : Source}
      (filled : reader.filling = ⟨received, source, none⟩)
      (isLong : reader.size < (reader.plaintext ++ received).length)
      (isLast : number = lastNumber) :
      Refilling reader number (some .chunkLimitExceeded)
        { reader with
          source, plaintext := reader.plaintext ++ received, output := [], position := 0 }
  | sealedNext {received : ByteString} {source : Source}
      (filled : reader.filling = ⟨received, source, none⟩)
      (isLong : reader.size < (reader.plaintext ++ received).length)
      (notLast : number ≠ lastNumber) :
      Refilling reader number none
        { reader with
          source, position := 0
          output := sealedChunk reader.key reader.label number false
            ((reader.plaintext ++ received).take reader.size)
          plaintext := (reader.plaintext ++ received).drop reader.size
          number := some (number + 1) }
  | sealedLast {received : ByteString} {source : Source}
      (filled : reader.filling = ⟨received, source, none⟩)
      (isShort : (reader.plaintext ++ received).length ≤ reader.size) :
      Refilling reader number none
        { reader with
          source, position := 0
          output := sealedChunk reader.key reader.label number true (reader.plaintext ++ received)
          plaintext := []
          number := none }

theorem refilling_refill (reader : SealingReader) (number : UInt32) :
    Refilling reader number (reader.refill number).1 (reader.refill number).2 := by
  unfold refill
  dsimp only
  generalize filled : reader.source.fill (reader.size + 1 - reader.plaintext.length) = filling
  rcases filling with ⟨received, source, fault⟩
  cases fault with
  | some fault => exact .failed filled
  | none =>
      dsimp only
      by_cases isLong : reader.size < (reader.plaintext ++ received).length
      · rw [if_pos isLong]
        by_cases isLast : number = lastNumber
        · rw [if_pos isLast]
          exact .exceeded filled isLong isLast
        · rw [if_neg isLast]
          exact .sealedNext filled isLong isLast
      · rw [if_neg isLong]
        exact .sealedLast filled (Nat.le_of_not_lt isLong)

end SealingReader

namespace OpeningReader

/-- An opening reader that has done nothing yet. -/
abbrev initial (source : Source) (key : ByteString) (size : Nat) : OpeningReader :=
  { source, key, size, progress := .label, ciphertext := [], output := [], position := 0 }

theorem start_eq_initial (source : Source) {key : ByteString} (key_length : key.length = keySize)
    (size : Nat) : start source key size = .ok (initial source key size) := by
  rw [start, if_neg (not_not_intro key_length)]

/-- What filling the buffer for the next chunk brings. -/
abbrev filling (reader : OpeningReader) : Source.Filling :=
  reader.source.fill (reader.size + Gcm.tagSize + 1 - reader.ciphertext.length)

/-- The reader once a refill has failed: there is nothing left to hand out. -/
abbrev failedWith (reader : OpeningReader) (source : Source) (ciphertext : ByteString) :
    OpeningReader :=
  { reader with source, ciphertext, progress := .failed, output := [], position := 0 }

/-- The outcomes of reading the label. -/
inductive LabelRefilling (reader : OpeningReader) : Option StreamError → OpeningReader → Prop where
  | failed {received : ByteString} {source : Source} {fault : ReadFault}
      (filled : reader.source.fill labelSize = ⟨received, source, some fault⟩) :
      LabelRefilling reader (some (.source fault)) (reader.failedWith source reader.ciphertext)
  | cutShort {received : ByteString} {source : Source}
      (filled : reader.source.fill labelSize = ⟨received, source, none⟩)
      (isShort : received.length < labelSize) :
      LabelRefilling reader (some .notAuthentic) (reader.failedWith source reader.ciphertext)
  | labelled {received : ByteString} {source : Source}
      (filled : reader.source.fill labelSize = ⟨received, source, none⟩)
      (notShort : labelSize ≤ received.length) :
      LabelRefilling reader none
        { reader with source, progress := .chunks received 0, output := [], position := 0 }

theorem labelRefilling_refillLabel (reader : OpeningReader) :
    LabelRefilling reader reader.refillLabel.1 reader.refillLabel.2 := by
  unfold refillLabel
  dsimp only
  generalize filled : reader.source.fill labelSize = filling
  rcases filling with ⟨received, source, fault⟩
  cases fault with
  | some fault => exact .failed filled
  | none =>
      dsimp only
      by_cases isShort : received.length < labelSize
      · rw [if_pos isShort]
        exact .cutShort filled isShort
      · rw [if_neg isShort]
        exact .labelled filled (Nat.le_of_not_lt isShort)

/-- The outcomes of opening the next chunk. -/
inductive ChunkRefilling (reader : OpeningReader) (label : ByteString) (number : UInt32) :
    Option StreamError → OpeningReader → Prop where
  | failed {received : ByteString} {source : Source} {fault : ReadFault}
      (filled : reader.filling = ⟨received, source, some fault⟩) :
      ChunkRefilling reader label number (some (.source fault))
        (reader.failedWith source (reader.ciphertext ++ received))
  | refusedNext {received : ByteString} {source : Source}
      (filled : reader.filling = ⟨received, source, none⟩)
      (isLong : reader.size + Gcm.tagSize < (reader.ciphertext ++ received).length)
      (refused : number ≠ lastNumber → openedChunk? reader.key label number false
        ((reader.ciphertext ++ received).take (reader.size + Gcm.tagSize)) = none) :
      ChunkRefilling reader label number (some .notAuthentic)
        (reader.failedWith source (reader.ciphertext ++ received))
  | refusedLast {received : ByteString} {source : Source}
      (filled : reader.filling = ⟨received, source, none⟩)
      (isShort : (reader.ciphertext ++ received).length ≤ reader.size + Gcm.tagSize)
      (refused : openedChunk? reader.key label number true (reader.ciphertext ++ received) = none) :
      ChunkRefilling reader label number (some .notAuthentic)
        (reader.failedWith source (reader.ciphertext ++ received))
  | openedNext {received chunk : ByteString} {source : Source}
      (filled : reader.filling = ⟨received, source, none⟩)
      (isLong : reader.size + Gcm.tagSize < (reader.ciphertext ++ received).length)
      (notLast : number ≠ lastNumber)
      (opened : openedChunk? reader.key label number false
        ((reader.ciphertext ++ received).take (reader.size + Gcm.tagSize)) = some chunk) :
      ChunkRefilling reader label number none
        { reader with
          source, position := 0
          progress := .chunks label (number + 1)
          ciphertext := (reader.ciphertext ++ received).drop (reader.size + Gcm.tagSize)
          output := chunk }
  | openedLast {received chunk : ByteString} {source : Source}
      (filled : reader.filling = ⟨received, source, none⟩)
      (isShort : (reader.ciphertext ++ received).length ≤ reader.size + Gcm.tagSize)
      (opened : openedChunk? reader.key label number true (reader.ciphertext ++ received) =
        some chunk) :
      ChunkRefilling reader label number none
        { reader with
          source, position := 0, progress := .complete, ciphertext := [], output := chunk }

theorem chunkRefilling_refillChunk (reader : OpeningReader) (label : ByteString)
    (number : UInt32) :
    ChunkRefilling reader label number (reader.refillChunk label number).1
      (reader.refillChunk label number).2 := by
  unfold refillChunk
  dsimp only
  generalize filled :
    reader.source.fill (reader.size + Gcm.tagSize + 1 - reader.ciphertext.length) = filling
  rcases filling with ⟨received, source, fault⟩
  cases fault with
  | some fault => exact .failed filled
  | none =>
      dsimp only
      by_cases isLong : reader.size + Gcm.tagSize < (reader.ciphertext ++ received).length
      · rw [if_pos isLong]
        by_cases isLast : number = lastNumber
        · rw [if_pos isLast]
          exact .refusedNext filled isLong (absurd isLast)
        · rw [if_neg isLast]
          cases opened : openedChunk? reader.key label number false
              ((reader.ciphertext ++ received).take (reader.size + Gcm.tagSize)) with
          | none => exact .refusedNext filled isLong fun _ => opened
          | some chunk => exact .openedNext filled isLong isLast opened
      · have isShort := Nat.le_of_not_lt isLong
        rw [if_neg isLong]
        cases opened : openedChunk? reader.key label number true
            (reader.ciphertext ++ received) with
        | none => exact .refusedLast filled isShort opened
        | some chunk => exact .openedLast filled isShort opened

/-- A reader that has failed and has nothing left to hand out. -/
structure HasFailed (reader : OpeningReader) : Prop where
  progress_eq : reader.progress = .failed
  spent : reader.output.length ≤ reader.position

section

variable {reader refilled : OpeningReader} {label : ByteString} {number : UInt32}
  {error : StreamError}

theorem hasFailed_failedWith (source : Source) (ciphertext : ByteString) :
    (reader.failedWith source ciphertext).HasFailed :=
  ⟨rfl, Nat.le_refl 0⟩

theorem LabelRefilling.hasFailed
    (refilling : LabelRefilling reader (some error) refilled) : refilled.HasFailed := by
  cases refilling with
  | failed => exact hasFailed_failedWith _ _
  | cutShort => exact hasFailed_failedWith _ _

theorem ChunkRefilling.hasFailed
    (refilling : ChunkRefilling reader label number (some error) refilled) :
    refilled.HasFailed := by
  cases refilling with
  | failed => exact hasFailed_failedWith _ _
  | refusedNext => exact hasFailed_failedWith _ _
  | refusedLast => exact hasFailed_failedWith _ _

/-- Whichever of its refills fails, a read that fails leaves the reader failed. -/
theorem hasFailed_of_readLoop {room fuel : Nat}
    (fails : (reader.readLoop room fuel).1 = .error error) :
    (reader.readLoop room fuel).2.HasFailed := by
  fun_induction readLoop room fuel reader with
  | case1 => cases fails
  | case2 => cases fails
  | case3 fuel reader waits hasFailed => exact ⟨hasFailed, Nat.le_of_not_lt waits⟩
  | case4 reader waits => exact ⟨rfl, Nat.le_of_not_lt waits⟩
  | case5 reader waits fuel isLabel readError refilled happened =>
      have refilling := reader.labelRefilling_refillLabel
      rw [happened] at refilling
      exact refilling.hasFailed
  | case6 reader waits fuel isLabel refilled happened ih => exact ih fails
  | case7 reader waits label number fuel isChunks readError refilled happened =>
      have refilling := reader.chunkRefilling_refillChunk label number
      rw [happened] at refilling
      exact refilling.hasFailed
  | case8 reader waits label number fuel isChunks refilled happened ih => exact ih fails

end

end OpeningReader

end SealedStream

end KeyCustody

import KeyCustody.Envelope
import KeyCustody.Proofs.SealedStream.Log
import KeyCustody.Proofs.WrappedKey

/-!
# Envelopes give their payload back

The key of the payload is drawn, wrapped under the owner's key and used to seal. Unwrapping gives the
same key, so what was read from the sealing reader opens to the payload, in whatever parts it is read
on either side. Without an owner's key of the right size nothing is sealed or opened.
-/

namespace KeyCustody

namespace SealedStream

/-- What a sealing reader writes for a payload is a stream of this payload. -/
theorem IsCut.isStreamOf_wire {size : Nat} {payload : ByteString} {chunks : List ByteString}
    {last : ByteString} (isCut : IsCut size payload chunks last) (count_lt : chunks.length < 2 ^ 32)
    (key : ByteString) {label : ByteString} (label_length : label.length = labelSize) :
    IsStreamOf key size payload (wire key label chunks last) :=
  ⟨label, chunks, last, label_length, Nat.le_pred_of_lt count_lt, isCut.length_eq,
    isCut.last_length_le, isCut.payload_eq, rfl⟩

/-- A reader over a stream that arrives without failures reads back its payload. -/
theorem OpeningReader.exists_yields {key payload : ByteString} (key_length : key.length = keySize)
    {size : Nat} (size_pos : 0 < size) {source : Source} (flowing : source.Flowing)
    (faultless : source.faults = []) (isStream : IsStreamOf key size payload source.bytes) :
    ∃ reader, OpeningReader.start source key size = .ok reader ∧
      Yields OpeningReader.read reader payload [] := by
  rcases OpeningReader.exists_start key_length size_pos flowing faultless with
    ⟨reader, started, hasOutlook, _⟩
  rcases isStreamOf_iff_payloadOf.mp isStream with ⟨noFailure, payload_eq⟩
  rw [noFailure, payload_eq] at hasOutlook
  exact ⟨reader, started, keepsTo_read.yields hasOutlook⟩

end SealedStream

namespace Envelope

open SealedStream

section

variable {Supply : Type} [ByteSupply Supply] {ownerKey : ByteString}

/-- Sealing draws the key of the payload, wraps it and starts a sealing reader with it. -/
theorem start_eq (length_eq : ownerKey.length = keySize) (payload : Source) (supply : Supply) :
    ∃ nonce afterWrap, nonce.length = Gcm.nonceSize ∧
      start ownerKey payload supply =
        Prod.map
          (Except.map (⟨nonce ++ Gcm.encrypt ownerKey nonce (generateKey supply).1⟩, ·)) id
          (SealingReader.start payload (generateKey supply).1 chunkSize afterWrap) := by
  have wrapped_eq := WrappedKey.wrap_eq length_eq (length_generateKey supply) (generateKey supply).2
  refine ⟨(ByteSupply.draw Gcm.nonceSize (generateKey supply).2).1,
    (ByteSupply.draw Gcm.nonceSize (generateKey supply).2).2, ByteSupply.length_draw _ _, ?_⟩
  rw [start]
  dsimp only
  rw [wrapped_eq]
  dsimp only
  generalize (ByteSupply.draw Gcm.nonceSize (generateKey supply).2).2 = afterWrap
  rcases SealingReader.start payload (generateKey supply).1 chunkSize afterWrap with
    ⟨_ | reader, afterStart⟩ <;> rfl

theorem start_of_length_ne (length_ne : ownerKey.length ≠ keySize) (payload : Source)
    (supply : Supply) :
    (start ownerKey payload supply).1 = .error (.invalidKeySize ownerKey.length) := by
  rw [start]
  dsimp only
  rw [WrappedKey.wrap_of_length_ne length_ne]

theorem reopen_of_length_ne (length_ne : ownerKey.length ≠ keySize) (wrapped : WrappedKey)
    (ciphertext : Source) :
    reopen ownerKey wrapped ciphertext = .error (.invalidKeySize ownerKey.length) := by
  rw [reopen, WrappedKey.unwrap_of_length_ne length_ne]

end

/-- Under an owner's key of 32 bytes every payload can be sealed. The wrapped key survives its
hexadecimal text, and the bytes read from the sealing reader open to exactly the payload and the end,
whatever way payload and ciphertext arrive in and whatever the rooms of the reads. Under a key of another
size nothing can be sealed or opened. -/
theorem sealed_payload_reopens {Supply : Type} [ByteSupply Supply] (ownerKey : ByteString)
    (supply : Supply) :
    (ownerKey.length = keySize →
      ∀ payload : Source, payload.Flowing → payload.bytes.length ≤ 2 ^ 32 * chunkSize →
        ∃ wrapped sealing stream,
          (start ownerKey payload supply).1 = .ok (wrapped, sealing) ∧
          WrappedKey.ofHexadecimal wrapped.toHexadecimal = .ok wrapped ∧
          Yields SealingReader.read sealing stream payload.faults ∧
          ∀ ciphertext : Source, ciphertext.Flowing → ciphertext.faults = [] →
            ciphertext.bytes = stream →
            ∃ opening, reopen ownerKey wrapped ciphertext = .ok opening ∧
              Yields OpeningReader.read opening payload.bytes []) ∧
    (ownerKey.length ≠ keySize →
      (∀ payload, (start ownerKey payload supply).1 =
        .error (.invalidKeySize ownerKey.length)) ∧
      ∀ wrapped ciphertext, reopen ownerKey wrapped ciphertext =
        .error (.invalidKeySize ownerKey.length)) := by
  have size_pos : 0 < chunkSize := Nat.two_pow_pos 16
  constructor
  · intro length_eq payload flowing length_le
    rcases start_eq length_eq payload supply with ⟨nonce, afterWrap, nonce_length, started⟩
    rcases SealingReader.exists_start afterWrap (length_generateKey supply) size_pos flowing
      length_le with ⟨sealing, chunks, last, sealingStarted, isCut, count_lt, sealingOutlook, _⟩
    refine ⟨⟨nonce ++ Gcm.encrypt ownerKey nonce (generateKey supply).1⟩, sealing,
      wire (generateKey supply).1 (ByteSupply.draw labelSize afterWrap).1 chunks last, ?_,
      WrappedKey.ofHexadecimal_toHexadecimal _,
      SealingReader.keepsTo_read.yields sealingOutlook, ?_⟩
    · rw [started, Prod.map_fst, sealingStarted, Except.map]
    · intro ciphertext ciphertextFlowing faultless bytes_eq
      have isStream := isCut.isStreamOf_wire count_lt (generateKey supply).1
        (ByteSupply.length_draw labelSize afterWrap)
      rw [← bytes_eq] at isStream
      rw [reopen, WrappedKey.unwrap_append length_eq nonce_length]
      exact OpeningReader.exists_yields (length_generateKey supply) size_pos ciphertextFlowing
        faultless isStream
  · intro length_ne
    exact ⟨fun payload => start_of_length_ne length_ne payload supply,
      fun wrapped ciphertext => reopen_of_length_ne length_ne wrapped ciphertext⟩

theorem sealed_payload_reopens_in_parts :
    (∃ wrapped sealing stream,
      (start (List.replicate 32 1) ⟨[.data [1], .fault .wouldBlock, .data [2, 3]], some 1⟩
        (ByteTape.mk [])).1 = .ok (wrapped, sealing) ∧
      Yields SealingReader.read sealing stream [.wouldBlock] ∧
      ∃ opening,
        reopen (List.replicate 32 1) wrapped
          ⟨[.data (stream.take 3), .fault .interrupted, .data (stream.drop 3)], some 5⟩ =
            .ok opening ∧
        Yields OpeningReader.read opening [1, 2, 3] []) ∧
    (start [1, 2] ⟨[], none⟩ (ByteTape.mk [])).1 = .error (.invalidKeySize 2) := by
  constructor
  · have flowing : Source.Flowing ⟨[.data [1], .fault .wouldBlock, .data [2, 3]], some 1⟩ :=
      ⟨by decide, by decide⟩
    rcases (sealed_payload_reopens (List.replicate 32 1) (ByteTape.mk [])).1 (by decide) _ flowing
      (by decide) with ⟨wrapped, sealing, stream, started, _, yields, reopens⟩
    refine ⟨wrapped, sealing, stream, started, yields, ?_⟩
    apply reopens ⟨[.data (stream.take 3), .fault .interrupted, .data (stream.drop 3)], some 5⟩
    · exact ⟨by simp, by simp⟩
    · rfl
    · simp [Source.bytes, Source.bytesOf]
  · exact ((sealed_payload_reopens [1, 2] (ByteTape.mk [])).2 (by decide)).1 ⟨[], none⟩

end Envelope

end KeyCustody

import KeyCustody.Proofs.SealedStream.History

/-!
# The limit on the number of chunks

There are 2³² numbers for the chunks of a stream, and the highest is kept for a last chunk. A payload that
would need more chunks is sealed up to the highest number; there the reader fails and stays there, since
the byte that follows the chunk shows that it cannot be the last. So no number is ever used twice, and
a stream that was broken off never looks complete.
-/

namespace KeyCustody

namespace SealedStream

/-- The numbers that are left for chunks that are not the last. -/
def numbersLeft (number : UInt32) : Nat := 2 ^ 32 - 1 - number.toNat

namespace SealingReader

/-- What a reader with these contents has still to produce if they need more chunks than there are
numbers left, and the failures of its source that it has still to pass on: those that come before the
first byte for which there is no chunk. -/
inductive Exceeds (key label : ByteString) (size : Nat) :
    Option UInt32 → ByteString → Source → ByteString → List ReadFault → Prop where
  | sealing {number : UInt32} {plaintext : ByteString} {source : Source}
      {chunks : List ByteString} {last : ByteString} (flowing : source.Flowing)
      (isCut : IsCut size (plaintext ++ source.bytes) chunks last)
      (tooMany : 2 ^ 32 ≤ number.toNat + chunks.length) :
      Exceeds key label size (some number) plaintext source
        (wireChunks key label number.toNat (chunks.take (numbersLeft number)))
        (source.faultsBefore ((numbersLeft number + 1) * size + 1 - plaintext.length))

/-- What is still to come from a reader that will run out of numbers. -/
def RunsOut (reader : SealingReader) (outlook : Outlook) : Prop :=
  0 < reader.size ∧
    ∃ rest faults, Exceeds reader.key reader.label reader.size reader.number reader.plaintext
        reader.source rest faults ∧
      outlook =
        ⟨reader.output.drop reader.position ++ rest, faults, some .chunkLimitExceeded⟩

section

variable {key label plaintext received rest : ByteString} {size : Nat} {number : UInt32}
  {source after : Source} {faults : List ReadFault}

theorem Exceeds.receive {fault : Option ReadFault}
    (exceeds : Exceeds key label size (some number) plaintext source rest faults)
    (filled : source.Filled (size + 1 - plaintext.length) received after fault)
    (before_eq : ∀ count, size + 1 - plaintext.length ≤ count → source.faultsBefore count =
      fault.toList ++ after.faultsBefore (count - received.length)) :
    ∃ later, faults = fault.toList ++ later ∧
      Exceeds key label size (some number) (plaintext ++ received) after rest later := by
  cases exceeds with
  | sealing flowing isCut tooMany =>
      have wanted_le : size + 1 - plaintext.length ≤
          (numbersLeft number + 1) * size + 1 - plaintext.length := by
        rw [Nat.succ_mul]
        omega
      rw [filled.bytes_eq, ← List.append_assoc] at isCut
      refine ⟨_, before_eq _ wanted_le, ?_⟩
      rw [Nat.sub_sub, ← List.length_append]
      exact .sealing filled.flowing isCut tooMany

/-- A buffer longer than a chunk starts with a chunk that is not the last, and any number but the
highest is left for it. -/
theorem Exceeds.next (size_pos : 0 < size)
    (exceeds : Exceeds key label size (some number) plaintext source rest faults)
    (isLong : size < plaintext.length) (notLast : number ≠ lastNumber) :
    ∃ later, rest = sealedChunk key label number false (plaintext.take size) ++ later ∧
      Exceeds key label size (some (number + 1)) (plaintext.drop size) source later faults := by
  cases exceeds with
  | @sealing _ _ _ chunks last flowing isCut tooMany =>
      have wholeIsLong : size < (plaintext ++ source.bytes).length := by
        rw [List.length_append]
        omega
      rcases isCut.long size_pos wholeIsLong with ⟨later, rfl, laterIsCut⟩
      rw [List.drop_append_of_le_length (Nat.le_of_lt isLong)] at laterIsCut
      rw [List.length_cons] at tooMany
      have next_lt := number_lt_of_ne notLast
      have next_eq := toNat_add_one next_lt
      have left_eq : numbersLeft number = numbersLeft (number + 1) + 1 := by
        rw [numbersLeft, numbersLeft, next_eq]
        omega
      have count_eq : (numbersLeft number + 1) * size + 1 - plaintext.length =
          (numbersLeft (number + 1) + 1) * size + 1 - (plaintext.drop size).length := by
        rw [left_eq, Nat.succ_mul, List.length_drop]
        omega
      refine ⟨wireChunks key label (number + 1).toNat (later.take (numbersLeft (number + 1))), ?_, ?_⟩
      · rw [left_eq, List.take_succ_cons, wireChunks, sealedChunk_eq, next_eq,
          List.take_append_of_le_length (Nat.le_of_lt isLong)]
        simp
      · rw [count_eq]
        apply Exceeds.sealing flowing laterIsCut
        rw [next_eq]
        omega

/-- At the highest number a buffer longer than a chunk leaves nothing to be produced. -/
theorem Exceeds.stop
    (exceeds : Exceeds key label size (some number) plaintext source rest faults)
    (isLong : size < plaintext.length) (isLast : number = lastNumber) : rest = [] ∧ faults = [] := by
  cases exceeds with
  | sealing flowing isCut tooMany =>
      have noneLeft : numbersLeft number = 0 := by
        rw [isLast]
        rfl
      have count_eq : (0 + 1) * size + 1 - plaintext.length = 0 := by omega
      rw [noneLeft, count_eq, Source.faultsBefore_zero, List.take_zero]
      exact ⟨rfl, rfl⟩

/-- A buffer that holds all there is holds more than a chunk. -/
theorem Exceeds.lt_length
    (exceeds : Exceeds key label size (some number) plaintext source rest faults)
    (bytes_eq : source.bytes = []) : size < plaintext.length := by
  cases exceeds with
  | sealing flowing isCut tooMany =>
      rw [bytes_eq, List.append_nil] at isCut
      apply Nat.lt_of_not_le
      intro isShort
      rcases isCut.short isShort with ⟨rfl, _⟩
      exact absurd number.toNat_lt (Nat.not_lt_of_le tooMany)

end

variable {reader : SealingReader} {rest : ByteString} {faults : List ReadFault}
  {outlook : Outlook}

/-- A refill seals a chunk, passes on a failure of the source or fails because the number is the
highest, and then nothing but this failure was to come. -/
theorem Exceeds.refill {number : UInt32} (size_pos : 0 < reader.size)
    (exceeds : Exceeds reader.key reader.label reader.size (some number) reader.plaintext
      reader.source rest faults) (number_eq : reader.number = some number) :
    Refills RunsOut ⟨rest, faults, some .chunkLimitExceeded⟩ (reader.refill number) := by
  have flowing : reader.source.Flowing := by
    cases exceeds with
    | sealing flowing => exact flowing
  have filled := filled_filling flowing
  have before_eq : ∀ count, reader.size + 1 - reader.plaintext.length ≤ count →
      reader.source.faultsBefore count = reader.filling.fault.toList ++
        reader.filling.source.faultsBefore (count - reader.filling.received.length) := by
    intro count wanted_le
    exact reader.source.faultsBefore_fill wanted_le
  have refilling := reader.refilling_refill number
  generalize reader.refill number = outcome at refilling ⊢
  rcases outcome with ⟨error?, refilled⟩
  dsimp only at refilling
  cases refilling with
  | failed happened =>
      rw [happened] at filled before_eq
      rcases exceeds.receive filled before_eq with ⟨later, rfl, hasReceived⟩
      rw [← number_eq] at hasReceived
      exact ⟨⟨rest, later, _⟩, fun _ => .passedOn, size_pos, rest, later, hasReceived, rfl⟩
  | exceeded happened isLong isLast =>
      rw [happened] at filled before_eq
      rcases exceeds.receive filled before_eq with ⟨_, rfl, hasReceived⟩
      rcases hasReceived.stop isLong isLast with ⟨rfl, rfl⟩
      rw [← number_eq] at hasReceived
      exact ⟨⟨[], [], _⟩, fun _ => .ended, size_pos, [], [], hasReceived, rfl⟩
  | sealedNext happened isLong notLast =>
      rw [happened] at filled before_eq
      rcases exceeds.receive filled before_eq with ⟨_, rfl, hasReceived⟩
      rcases hasReceived.next size_pos isLong notLast with ⟨later, rfl, hasSealed⟩
      exact ⟨sealedChunk_waits, size_pos, later, faults, hasSealed, rfl⟩
  | sealedLast happened isShort =>
      rw [happened] at filled before_eq
      rcases exceeds.receive filled before_eq with ⟨_, rfl, hasReceived⟩
      have bytes_eq := (filled.exhausted_of_short isShort).1
      exact absurd (hasReceived.lt_length bytes_eq) (Nat.not_lt_of_le isShort)

theorem RunsOut.drained (runsOut : reader.RunsOut outlook) {room : Nat} (room_pos : 0 < room)
    (waiting : reader.position < reader.output.length) :
    ∃ next, Outlook.Step room outlook (.ok (drain reader.output reader.position room).1) next ∧
      RunsOut { reader with position := (drain reader.output reader.position room).2 } next := by
  rcases runsOut with ⟨size_pos, rest, faults, exceeds, rfl⟩
  exact ⟨_, .drained waiting room_pos rest faults _, size_pos, rest, faults, exceeds, rfl⟩

theorem keepsTo_runsOut : KeepsTo SealingReader.read RunsOut := by
  apply keepsTo_of_refills
  · intro reader outlook room runsOut
    exact runsOut.drained
  · rintro reader _ ⟨_, rest, faults, exceeds, rfl⟩ spent number_eq
    rw [number_eq] at exceeds
    cases exceeds
  · rintro reader _ number ⟨size_pos, rest, faults, exceeds, rfl⟩ spent number_eq
    rw [number_eq] at exceeds
    rw [List.drop_eq_nil_of_le spent, List.nil_append]
    exact exceeds.refill size_pos number_eq

theorem recorded_initial (source : Source) (key label : ByteString) (size : Nat) :
    Recorded key label [] [] (initial source key label size) := by
  refine ⟨([], none), rfl, rfl, rfl, Nat.two_pow_pos 32, (List.append_nil label).symm, ?_⟩
  rintro _ ⟨rfl⟩
  exact ⟨rfl, rfl⟩

/-- No nonce is used twice for what was logged, and what was returned comes from it. -/
theorem Recorded.distinct {key label handed : ByteString} {placed : List PlacedChunk}
    (recorded : Recorded key label handed placed reader) :
    (placed.map PlacedChunk.nonce).Nodup ∧
      (∀ entry ∈ placed, ∃ chunk, entry.sealed = Gcm.encrypt key entry.nonce chunk) ∧
      handed <+: label ++ placed.flatMap PlacedChunk.sealed := by
  rcases recorded with ⟨chunks, rfl, hasSealed⟩
  refine ⟨nodup_nonces ?_, ?_, ⟨_, hasSealed.handed_eq⟩⟩
  · rw [Nat.zero_add]
    exact hasSealed.count_lt
  · intro entry isMember
    rcases mem_placedFrom.mp isMember with ⟨_, chunk, _, rfl⟩ | ⟨last, _, rfl⟩
    · exact ⟨chunk, rfl⟩
    · exact ⟨last, rfl⟩

end SealingReader

/-- However the payload arrives, no two chunks are sealed under the same nonce. A payload that needs more
chunks than there are numbers is sealed up to the highest number, and from then on the reader fails and
never reports an end; a payload that needs no more never meets the limit. -/
theorem chunk_numbers_never_wrap {Supply : Type} [ByteSupply Supply] (supply : Supply)
    {key : ByteString} (key_length : key.length = keySize) {size : Nat} (size_pos : 0 < size)
    (source : Source) :
    ∃ reader chunks last, (SealingReader.start source key size supply).1 = .ok reader ∧
      IsCut size source.bytes chunks last ∧
      (∀ rooms count,
        ((logged SealingReader.read SealingReader.sealedIn reader rooms count).map
          PlacedChunk.nonce).Nodup ∧
        (∀ placed ∈ logged SealingReader.read SealingReader.sealedIn reader rooms count,
          ∃ chunk, placed.sealed = Gcm.encrypt key placed.nonce chunk) ∧
        returned SealingReader.read reader rooms count <+:
          (ByteSupply.draw labelSize supply).1 ++
            (logged SealingReader.read SealingReader.sealedIn reader rooms count).flatMap
              PlacedChunk.sealed) ∧
      (source.Flowing →
        (2 ^ 32 < chunks.length + 1 →
          BreaksOff SealingReader.read reader
            ((ByteSupply.draw labelSize supply).1 ++
              wireChunks key (ByteSupply.draw labelSize supply).1 0 (chunks.take (2 ^ 32 - 1)))
            (source.faultsBefore (2 ^ 32 * size + 1)) .chunkLimitExceeded) ∧
        (chunks.length + 1 ≤ 2 ^ 32 → ∀ rooms position,
          answerAt SealingReader.read reader rooms position ≠ .error .chunkLimitExceeded)) := by
  rcases exists_isCut size_pos source.bytes with ⟨chunks, last, isCut⟩
  have notSource : ∀ fault, StreamError.chunkLimitExceeded ≠ .source fault := by
    rintro fault ⟨⟩
  refine ⟨_, chunks, last, SealingReader.start_eq_initial source key_length size supply, isCut, ?_, ?_⟩
  · intro rooms count
    have recorded := (SealingReader.maintains_recorded key (ByteSupply.draw labelSize supply).1).run
      (SealingReader.recorded_initial source key _ size) rooms count
    exact recorded.distinct
  · intro flowing
    constructor
    · intro tooMany
      have number_ge : 2 ^ 32 ≤ (0 : UInt32).toNat + chunks.length := by
        rw [UInt32.toNat_zero]
        omega
      exact SealingReader.keepsTo_runsOut.breaksOff notSource
        ⟨size_pos, _, _, .sealing flowing isCut number_ge, rfl⟩
    · intro notTooMany
      have hasOutlook := SealingReader.hasOutlook_initial key (ByteSupply.draw labelSize supply).1
        size_pos flowing isCut notTooMany
      exact SealingReader.keepsTo_read.answerAt_ne hasOutlook rfl notSource

/-- One byte more than there are numbers, each in a chunk of its own. -/
theorem chunk_numbers_never_wrap_past_limit :
    ∃ (reader : SealingReader) (chunks : List ByteString),
      (SealingReader.start ⟨[.data (List.replicate (2 ^ 32 + 1) 7)], none⟩
        (List.replicate 32 0) 1 (ByteTape.mk [9, 8, 7, 6, 5, 4, 3])).1 = .ok reader ∧
      chunks.length = 2 ^ 32 ∧
      BreaksOff SealingReader.read reader
        ([9, 8, 7, 6, 5, 4, 3] ++ wireChunks (List.replicate 32 0) [9, 8, 7, 6, 5, 4, 3] 0
          (chunks.take (2 ^ 32 - 1))) [] .chunkLimitExceeded := by
  have payload_length : (List.replicate (2 ^ 32 + 1) (7 : UInt8)).length = 2 ^ 32 + 1 :=
    List.length_replicate
  generalize List.replicate (2 ^ 32 + 1) (7 : UInt8) = payload at payload_length ⊢
  have bytes_eq : Source.bytes ⟨[.data payload], none⟩ = payload := List.append_nil payload
  have faultless : Source.faultsBefore ⟨[.data payload], none⟩ (2 ^ 32 * 1 + 1) = [] :=
    List.prefix_nil.mp (Source.faultsBeforeOf_isPrefix _ [.data payload])
  rcases @chunk_numbers_never_wrap ByteTape _ ⟨[9, 8, 7, 6, 5, 4, 3]⟩ (List.replicate 32 0)
      (by decide) 1 (by decide) ⟨[.data payload], none⟩ with
    ⟨reader, chunks, last, started, isCut, _, limited⟩
  rcases limited ⟨by simp, by simp⟩ with ⟨breaksOff, _⟩
  have count_eq := isCut.count_eq
  rw [bytes_eq, payload_length] at count_eq
  rw [faultless] at breaksOff
  exact ⟨reader, chunks, started, by omega, breaksOff (by omega)⟩

end SealedStream

end KeyCustody

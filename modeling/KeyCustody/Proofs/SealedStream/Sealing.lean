import KeyCustody.Proofs.SealedStream.Filling
import KeyCustody.Proofs.SealedStream.Format
import KeyCustody.Proofs.SealedStream.Reading
import KeyCustody.Proofs.SealedStream.Refilling

/-!
# Reading from a sealing reader yields the format

What a sealing reader has still to produce depends on its buffer and on the bytes that its source still
has, in whatever parts these arrive. A refill moves one sealed chunk from there to the output, or passes
on one failure of the source and leaves the rest as it was.
-/

namespace KeyCustody

namespace SealedStream

namespace SealingReader

/-- What a reader with these contents has still to produce, and the failures of its source that it has
still to pass on. -/
inductive Produces (key label : ByteString) (size : Nat) :
    Option UInt32 → ByteString → Source → ByteString → List ReadFault → Prop where
  | sealing {number : UInt32} {plaintext : ByteString} {source : Source}
      {chunks : List ByteString} {last : ByteString} (flowing : source.Flowing)
      (isCut : IsCut size (plaintext ++ source.bytes) chunks last)
      (number_lt : number.toNat + chunks.length < 2 ^ 32) :
      Produces key label size (some number) plaintext source
        (wireFrom key label number.toNat chunks last) source.faults
  | complete {plaintext : ByteString} {source : Source} :
      Produces key label size none plaintext source [] []

/-- What is still to come from a reader: its output and what it has still to produce. It never fails by
itself. -/
def HasOutlook (reader : SealingReader) (outlook : Outlook) : Prop :=
  0 < reader.size ∧
    ∃ rest faults, Produces reader.key reader.label reader.size reader.number reader.plaintext
        reader.source rest faults ∧
      outlook = ⟨reader.output.drop reader.position ++ rest, faults, none⟩

section

variable {key label plaintext received rest : ByteString} {size : Nat} {number : UInt32}
  {source after : Source} {faults : List ReadFault}

theorem sealedChunk_waits {isLast : Bool} {chunk : ByteString} :
    0 < (sealedChunk key label number isLast chunk).length := by
  rw [sealedChunk_eq]
  exact List.length_pos_iff.mpr (wireChunk_ne_nil _ chunk)

theorem Produces.receive {fault : Option ReadFault} {wanted : Nat}
    (produces : Produces key label size (some number) plaintext source rest faults)
    (filled : source.Filled wanted received after fault) :
    ∃ later, faults = fault.toList ++ later ∧
      Produces key label size (some number) (plaintext ++ received) after rest later := by
  cases produces with
  | sealing flowing isCut number_lt =>
      refine ⟨after.faults, filled.faults_eq, ?_⟩
      rw [filled.bytes_eq, ← List.append_assoc] at isCut
      exact .sealing filled.flowing isCut number_lt

/-- A buffer longer than a chunk starts with a chunk that is not the last. -/
theorem Produces.next (size_pos : 0 < size)
    (produces : Produces key label size (some number) plaintext source rest faults)
    (isLong : size < plaintext.length) :
    number ≠ lastNumber ∧
      ∃ later, rest = sealedChunk key label number false (plaintext.take size) ++ later ∧
        Produces key label size (some (number + 1)) (plaintext.drop size) source later faults := by
  cases produces with
  | @sealing _ _ _ chunks last flowing isCut number_lt =>
      have wholeIsLong : size < (plaintext ++ source.bytes).length := by
        rw [List.length_append]
        omega
      rcases isCut.long size_pos wholeIsLong with ⟨later, rfl, laterIsCut⟩
      rw [List.drop_append_of_le_length (Nat.le_of_lt isLong)] at laterIsCut
      rw [List.length_cons] at number_lt
      have next_lt : number.toNat + 1 < 2 ^ 32 := by omega
      have next_eq := toNat_add_one next_lt
      constructor
      · exact ne_of_number_lt next_lt
      · refine ⟨wireFrom key label (number + 1).toNat later last, ?_, ?_⟩
        · rw [wireFrom_cons, sealedChunk_eq, next_eq,
            List.take_append_of_le_length (Nat.le_of_lt isLong)]
          simp
        · apply Produces.sealing flowing laterIsCut
          rw [next_eq]
          omega

/-- A buffer that holds all there is and no more than a chunk is the last chunk. -/
theorem Produces.last
    (produces : Produces key label size (some number) plaintext source rest faults)
    (isShort : plaintext.length ≤ size) (bytes_eq : source.bytes = [])
    (faults_eq : source.faults = []) :
    rest = sealedChunk key label number true plaintext ∧ faults = [] := by
  cases produces with
  | sealing flowing isCut number_lt =>
      rw [bytes_eq, List.append_nil] at isCut
      rcases isCut.short isShort with ⟨rfl, rfl⟩
      refine ⟨?_, faults_eq⟩
      rw [wireFrom_nil, sealedChunk_eq]
      simp

end

variable {reader : SealingReader} {rest : ByteString} {faults : List ReadFault}

/-- What a refill comes to: more to hand out, or an error that was to come. -/
def Refills (hasOutlook : SealingReader → Outlook → Prop) (outlook : Outlook) :
    Option StreamError × SealingReader → Prop
  | (none, refilled) =>
    refilled.position < refilled.output.length ∧ hasOutlook refilled outlook
  | (some error, refilled) =>
    ∃ next, (∀ room, 0 < room → Outlook.Step room outlook (.error error) next) ∧
      hasOutlook refilled next

/-- A reader keeps to its outlooks if handing out and refilling do, and if nothing is to come any more
once the last chunk has been sealed and handed out. -/
theorem keepsTo_of_refills {hasOutlook : SealingReader → Outlook → Prop}
    (drains : ∀ reader outlook room, hasOutlook reader outlook → 0 < room →
      reader.position < reader.output.length →
      ∃ next, Outlook.Step room outlook (.ok (drain reader.output reader.position room).1) next ∧
        hasOutlook { reader with position := (drain reader.output reader.position room).2 } next)
    (ends : ∀ reader outlook, hasOutlook reader outlook → reader.output.length ≤ reader.position →
      reader.number = none → outlook = ⟨[], [], none⟩)
    (refills : ∀ reader outlook number, hasOutlook reader outlook →
      reader.output.length ≤ reader.position → reader.number = some number →
      Refills hasOutlook outlook (reader.refill number)) :
    KeepsTo SealingReader.read hasOutlook := by
  intro reader outlook room starts
  unfold SealingReader.read
  by_cases noRoom : room = 0
  · rw [if_pos noRoom]
    exact ⟨outlook, .idle noRoom, starts⟩
  · have room_pos := Nat.pos_of_ne_zero noRoom
    rw [if_neg noRoom]
    by_cases waiting : reader.position < reader.output.length
    · rw [if_pos waiting]
      exact drains reader outlook room starts room_pos waiting
    · have spent := Nat.le_of_not_lt waiting
      rw [if_neg waiting]
      cases number_eq : reader.number with
      | none =>
          have outlook_eq := ends reader outlook starts spent number_eq
          subst outlook_eq
          exact ⟨⟨[], [], none⟩, .ended room_pos, starts⟩
      | some number =>
          have refilled := refills reader outlook number starts spent number_eq
          dsimp only
          generalize reader.refill number = outcome at refilled ⊢
          rcases outcome with ⟨_ | error, next⟩
          · exact drains next outlook room refilled.2 room_pos refilled.1
          · rcases refilled with ⟨left, step, hasLeft⟩
            exact ⟨left, step room room_pos, hasLeft⟩

theorem filled_filling (flowing : reader.source.Flowing) :
    reader.source.Filled (reader.size + 1 - reader.plaintext.length) reader.filling.received
      reader.filling.source reader.filling.fault :=
  flowing.filled_fill _

/-- A refill seals a chunk into the output or passes on a failure of the source. -/
theorem Produces.refill {number : UInt32} (size_pos : 0 < reader.size)
    (produces : Produces reader.key reader.label reader.size (some number) reader.plaintext
      reader.source rest faults) (number_eq : reader.number = some number) :
    Refills HasOutlook ⟨rest, faults, none⟩ (reader.refill number) := by
  have flowing : reader.source.Flowing := by
    cases produces with
    | sealing flowing => exact flowing
  have filled := filled_filling flowing
  have refilling := reader.refilling_refill number
  generalize reader.refill number = outcome at refilling ⊢
  rcases outcome with ⟨error?, refilled⟩
  dsimp only at refilling
  cases refilling with
  | failed happened =>
      rw [happened] at filled
      rcases produces.receive filled with ⟨later, rfl, hasReceived⟩
      rw [← number_eq] at hasReceived
      exact ⟨⟨rest, later, none⟩, fun _ => .passedOn, size_pos, rest, later, hasReceived, rfl⟩
  | exceeded happened isLong isLast =>
      rw [happened] at filled
      rcases produces.receive filled with ⟨_, rfl, hasReceived⟩
      exact absurd isLast (hasReceived.next size_pos isLong).1
  | sealedNext happened isLong =>
      rw [happened] at filled
      rcases produces.receive filled with ⟨_, rfl, hasReceived⟩
      rcases hasReceived.next size_pos isLong with ⟨_, later, rfl, hasSealed⟩
      exact ⟨sealedChunk_waits, size_pos, later, faults, hasSealed, rfl⟩
  | sealedLast happened isShort =>
      rw [happened] at filled
      rcases produces.receive filled with ⟨_, rfl, hasReceived⟩
      rcases filled.exhausted_of_short isShort with ⟨bytes_eq, faults_eq⟩
      rcases hasReceived.last isShort bytes_eq faults_eq with ⟨rfl, rfl⟩
      refine ⟨sealedChunk_waits, size_pos, [], [], .complete, ?_⟩
      simp

theorem HasOutlook.drained {outlook : Outlook} (hasOutlook : reader.HasOutlook outlook) {room : Nat}
    (room_pos : 0 < room) (waiting : reader.position < reader.output.length) :
    ∃ next, Outlook.Step room outlook (.ok (drain reader.output reader.position room).1) next ∧
      HasOutlook { reader with position := (drain reader.output reader.position room).2 } next := by
  rcases hasOutlook with ⟨size_pos, rest, faults, produces, rfl⟩
  exact ⟨_, .drained waiting room_pos rest faults none, size_pos, rest, faults, produces, rfl⟩

/-- A reader that has done nothing yet has the whole format of the cut payload ahead of it. -/
theorem hasOutlook_initial (key label : ByteString) {size : Nat} (size_pos : 0 < size)
    {source : Source} (flowing : source.Flowing) {chunks : List ByteString} {last : ByteString}
    (isCut : IsCut size source.bytes chunks last) (count_lt : chunks.length < 2 ^ 32) :
    (initial source key label size).HasOutlook ⟨wire key label chunks last, source.faults, none⟩ := by
  have number_lt : (0 : UInt32).toNat + chunks.length < 2 ^ 32 := by
    rw [UInt32.toNat_zero, Nat.zero_add]
    exact count_lt
  exact ⟨size_pos, _, _, .sealing flowing isCut number_lt, rfl⟩

theorem keepsTo_read : KeepsTo SealingReader.read HasOutlook := by
  apply keepsTo_of_refills
  · intro reader outlook room hasOutlook
    exact hasOutlook.drained
  · rintro reader _ ⟨_, rest, faults, produces, rfl⟩ spent number_eq
    rw [number_eq] at produces
    cases produces with
    | complete => rw [List.drop_eq_nil_of_le spent, List.nil_append]
  · rintro reader _ number ⟨size_pos, rest, faults, produces, rfl⟩ spent number_eq
    rw [number_eq] at produces
    rw [List.drop_eq_nil_of_le spent, List.nil_append]
    exact produces.refill size_pos number_eq

end SealingReader

/-- Whatever way the bytes of a source arrive in and whatever the rooms, what is read from a sealing
reader is the cut payload in the format, and every failure of the source is passed on once. -/
theorem sealing_yields_wire {Supply : Type} [ByteSupply Supply] (supply : Supply)
    {key : ByteString} (key_length : key.length = keySize) {size : Nat} (size_pos : 0 < size)
    {source : Source} (flowing : source.Flowing)
    (length_le : source.bytes.length ≤ 2 ^ 32 * size) :
    ∃ reader chunks last, (SealingReader.start source key size supply).1 = .ok reader ∧
      IsCut size source.bytes chunks last ∧
      Yields SealingReader.read reader
        (wire key (ByteSupply.draw labelSize supply).1 chunks last) source.faults := by
  rcases exists_isCut size_pos source.bytes with ⟨chunks, last, isCut⟩
  have hasOutlook := SealingReader.hasOutlook_initial key (ByteSupply.draw labelSize supply).1 size_pos
    flowing isCut (isCut.length_lt size_pos length_le)
  exact ⟨_, chunks, last, SealingReader.start_eq_initial source key_length size supply, isCut,
    SealingReader.keepsTo_read.yields hasOutlook⟩

theorem sealing_yields_wire_in_parts :
    ∃ reader, (SealingReader.start
        ⟨[.data [1], .fault .interrupted, .fault .wouldBlock, .data [2, 3]], some 1⟩
        (List.replicate 32 0) 2 (ByteTape.mk [9, 8, 7, 6, 5, 4, 3])).1 = .ok reader ∧
      Yields SealingReader.read reader
        (wire (List.replicate 32 0) [9, 8, 7, 6, 5, 4, 3] [[1, 2]] [3]) [.wouldBlock] := by
  rcases @sealing_yields_wire ByteTape _ ⟨[9, 8, 7, 6, 5, 4, 3]⟩ (List.replicate 32 0) (by decide)
      2 (by decide) ⟨[.data [1], .fault .interrupted, .fault .wouldBlock, .data [2, 3]], some 1⟩
      ⟨by decide, by decide⟩ (by decide) with ⟨reader, chunks, last, started, isCut, yields⟩
  rcases isCut.long (by decide) (by decide) with ⟨rest, rfl, restIsCut⟩
  rcases restIsCut.short (by decide) with ⟨rfl, rfl⟩
  exact ⟨reader, started, yields⟩

end SealedStream

end KeyCustody

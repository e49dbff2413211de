import KeyCustody.Proofs.SealedStream.Filling
import KeyCustody.Proofs.SealedStream.Openable
import KeyCustody.Proofs.SealedStream.Reading
import KeyCustody.Proofs.SealedStream.Refilling

/-!
# Reading from an opening reader accepts exactly the format

What an opening reader has still to produce is what the bytes in its buffer and in its source open to at
one go. A refill opens the next chunk of them into the output; where opening at one go stops, the reader
fails.
-/

namespace KeyCustody

namespace SealedStream

/-- The bytes that opening gives. -/
def payloadOf (opened : List ByteString × Option ByteString) : ByteString :=
  opened.1.flatten ++ opened.2.getD []

/-- How reading what opening gives ends. -/
def failureOf (opened : List ByteString × Option ByteString) : Option StreamError :=
  match opened.2 with
  | some _ => none
  | none => some .notAuthentic

theorem isStreamOf_iff_payloadOf {key payload sealed : ByteString} {size : Nat} :
    IsStreamOf key size payload sealed ↔
      failureOf (openStream key size sealed) = none ∧
        payloadOf (openStream key size sealed) = payload := by
  rw [isStreamOf_iff]
  rcases openStream key size sealed with ⟨chunks, _ | last⟩
  · simp [failureOf]
  · simp [failureOf, payloadOf, eq_comm]

/-- Bytes that are no stream give the chunks that lead them. -/
theorem opened_of_not_isStreamOf {key sealed : ByteString} {size : Nat}
    (noStream : ∀ payload, ¬IsStreamOf key size payload sealed) :
    payloadOf (openStream key size sealed) = (openStream key size sealed).1.flatten ∧
      failureOf (openStream key size sealed) = some .notAuthentic := by
  have notOpened : (openStream key size sealed).2 = none := by
    cases lastOpened : (openStream key size sealed).2 with
    | none => rfl
    | some last =>
        refine absurd (isStreamOf_iff_payloadOf.mpr ⟨?_, rfl⟩) (noStream _)
        rw [failureOf, lastOpened]
  rw [payloadOf, failureOf, notOpened]
  exact ⟨List.append_nil _, rfl⟩

namespace OpeningReader

/-- What a reader with these contents has still to produce, and how it ends. -/
inductive Produces (key : ByteString) (size : Nat) :
    Progress → ByteString → Source → ByteString → Option StreamError → Prop where
  | label {source : Source} (flowing : source.Flowing) (faultless : source.faults = []) :
      Produces key size .label [] source (payloadOf (openStream key size source.bytes))
        (failureOf (openStream key size source.bytes))
  | chunks {label : ByteString} {number : UInt32} {ciphertext : ByteString} {source : Source}
      {opened : List ByteString × Option ByteString}
      (flowing : source.Flowing) (faultless : source.faults = [])
      (opened_eq : openFrom key label size number (ciphertext ++ source.bytes) = opened) :
      Produces key size (.chunks label number) ciphertext source (payloadOf opened)
        (failureOf opened)
  | complete {ciphertext : ByteString} {source : Source} :
      Produces key size .complete ciphertext source [] none
  | failed {ciphertext : ByteString} {source : Source} :
      Produces key size .failed ciphertext source [] (some .notAuthentic)

/-- What is still to come from a reader over a source that does not fail. -/
def HasOutlook (reader : OpeningReader) (outlook : Outlook) : Prop :=
  0 < reader.size ∧
    ∃ rest failure, Produces reader.key reader.size reader.progress reader.ciphertext reader.source
        rest failure ∧
      outlook = ⟨reader.output.drop reader.position ++ rest, [], failure⟩

/-- What a read returned and the reader after it take the next bit off the outlook. -/
def Takes (room : Nat) (outlook : Outlook)
    (outcome : Except StreamError ByteString × OpeningReader) : Prop :=
  ∃ next, Outlook.Step room outlook outcome.1 next ∧ outcome.2.HasOutlook next

/-- What a refill comes to: more to hand out, or the failure that was to come. -/
def Refills (outlook : Outlook) (settled : OpeningReader → Prop) :
    Option StreamError × OpeningReader → Prop
  | (none, refilled) => refilled.HasOutlook outlook ∧ settled refilled
  | (some error, refilled) =>
    error = .notAuthentic ∧ outlook = ⟨[], [], some .notAuthentic⟩ ∧ refilled.HasOutlook outlook

section

variable {key label ciphertext received chunk rest : ByteString} {size : Nat} {number : UInt32}
  {source after : Source} {failure : Option StreamError}

theorem Produces.receive {fault : Option ReadFault} {wanted : Nat}
    (produces : Produces key size (.chunks label number) ciphertext source rest failure)
    (filled : source.Filled wanted received after fault) :
    fault = none ∧
      Produces key size (.chunks label number) (ciphertext ++ received) after rest failure := by
  cases produces with
  | chunks flowing faultless opened_eq =>
      rcases filled.fault_eq_none faultless with ⟨noFault, stillFaultless⟩
      rw [filled.bytes_eq, ← List.append_assoc] at opened_eq
      exact ⟨noFault, .chunks filled.flowing stillFaultless opened_eq⟩

/-- A buffer longer than a sealed chunk starts with one that is not the last. -/
theorem Produces.next
    (produces : Produces key size (.chunks label number) ciphertext source rest failure)
    (isLong : size + Gcm.tagSize < ciphertext.length) (notLast : number ≠ lastNumber)
    (chunkOpened : openedChunk? key label number false (ciphertext.take (size + Gcm.tagSize)) =
      some chunk) :
    ∃ later, rest = chunk ++ later ∧
      Produces key size (.chunks label (number + 1)) (ciphertext.drop (size + Gcm.tagSize)) source
        later failure := by
  cases produces with
  | chunks flowing faultless opened_eq =>
      rw [openFrom_append isLong, if_neg notLast, chunkOpened] at opened_eq
      subst opened_eq
      generalize laterOpened : openFrom key label size (number + 1)
        (ciphertext.drop (size + Gcm.tagSize) ++ source.bytes) = later
      refine ⟨payloadOf later, ?_, .chunks flowing faultless laterOpened⟩
      simp [payloadOf]

/-- Opening stops where that chunk is not authentic, or would need a number that is kept for a last
chunk. -/
theorem Produces.stop
    (produces : Produces key size (.chunks label number) ciphertext source rest failure)
    (isLong : size + Gcm.tagSize < ciphertext.length)
    (refused : number ≠ lastNumber →
      openedChunk? key label number false (ciphertext.take (size + Gcm.tagSize)) = none) :
    rest = [] ∧ failure = some .notAuthentic := by
  cases produces with
  | chunks flowing faultless opened_eq =>
      rw [openFrom_append isLong] at opened_eq
      by_cases isLast : number = lastNumber
      · rw [if_pos isLast] at opened_eq
        subst opened_eq
        exact ⟨rfl, rfl⟩
      · rw [if_neg isLast, refused isLast] at opened_eq
        subst opened_eq
        exact ⟨rfl, rfl⟩

/-- A buffer that holds all there is and no more than a sealed chunk is the last chunk. -/
theorem Produces.last
    (produces : Produces key size (.chunks label number) ciphertext source rest failure)
    (isShort : ciphertext.length ≤ size + Gcm.tagSize) (bytes_eq : source.bytes = []) :
    rest = payloadOf ([], openedChunk? key label number true ciphertext) ∧
      failure = failureOf ([], openedChunk? key label number true ciphertext) := by
  cases produces with
  | chunks flowing faultless opened_eq =>
      rw [bytes_eq, List.append_nil, openFrom_of_short isShort] at opened_eq
      subst opened_eq
      exact ⟨rfl, rfl⟩

end

variable {reader : OpeningReader} {outlook : Outlook} {room : Nat}

theorem HasOutlook.drained (hasOutlook : reader.HasOutlook outlook) (room_pos : 0 < room)
    (waiting : reader.position < reader.output.length) :
    Takes room outlook (.ok (drain reader.output reader.position room).1,
      { reader with position := (drain reader.output reader.position room).2 }) := by
  rcases hasOutlook with ⟨size_pos, rest, failure, produces, rfl⟩
  exact ⟨_, .drained waiting room_pos rest [] failure, size_pos, rest, failure, produces, rfl⟩

theorem refills_failedWith {settled : OpeningReader → Prop} (size_pos : 0 < reader.size)
    (source : Source) (ciphertext : ByteString) :
    Refills ⟨[], [], some .notAuthentic⟩ settled
      (some .notAuthentic, reader.failedWith source ciphertext) :=
  ⟨rfl, rfl, size_pos, [], some .notAuthentic, .failed, rfl⟩

theorem refills_refillLabel {rest : ByteString} {failure : Option StreamError}
    (size_pos : 0 < reader.size)
    (produces : Produces reader.key reader.size .label reader.ciphertext reader.source rest
      failure) :
    Refills ⟨rest, [], failure⟩
      (fun refilled => ∃ label number, refilled.progress = .chunks label number)
      reader.refillLabel := by
  have refilling := reader.labelRefilling_refillLabel
  generalize reader.refillLabel = outcome at refilling ⊢
  rcases outcome with ⟨error?, refilled⟩
  dsimp only at refilling
  generalize ciphertext_eq : reader.ciphertext = ciphertext at produces
  cases produces with
  | label flowing faultless =>
      have filled := flowing.filled_fill labelSize
      cases refilling with
      | failed happened =>
          rw [happened] at filled
          cases (filled.fault_eq_none faultless).1
      | cutShort happened isShort =>
          rw [happened] at filled
          rcases filled.exhausted rfl isShort with ⟨bytes_eq, _⟩
          dsimp only at bytes_eq
          rw [filled.bytes_eq, bytes_eq, List.append_nil, openStream, if_pos isShort]
          exact refills_failedWith size_pos _ _
      | @labelled received source happened notShort =>
          rw [happened] at filled
          have received_length : received.length = labelSize :=
            Nat.le_antisymm filled.length_le notShort
          rw [filled.bytes_eq, openStream_append received_length]
          refine ⟨⟨size_pos, _, _, .chunks filled.flowing (filled.fault_eq_none faultless).2 ?_, rfl⟩,
            received, 0, rfl⟩
          rw [ciphertext_eq]
          rfl

theorem filled_filling (flowing : reader.source.Flowing) :
    reader.source.Filled (reader.size + Gcm.tagSize + 1 - reader.ciphertext.length)
      reader.filling.received reader.filling.source reader.filling.fault :=
  flowing.filled_fill _

theorem refills_refillChunk {label rest : ByteString} {number : UInt32}
    {failure : Option StreamError} (size_pos : 0 < reader.size)
    (produces : Produces reader.key reader.size (.chunks label number) reader.ciphertext
      reader.source rest failure) :
    Refills ⟨rest, [], failure⟩
      (fun refilled =>
        refilled.position < refilled.output.length ∨ refilled.progress = .complete)
      (reader.refillChunk label number) := by
  have flowing : reader.source.Flowing := by
    cases produces with
    | chunks flowing => exact flowing
  have filled := filled_filling flowing
  have refilling := reader.chunkRefilling_refillChunk label number
  generalize reader.refillChunk label number = outcome at refilling ⊢
  rcases outcome with ⟨error?, refilled⟩
  dsimp only at refilling
  rcases produces.receive filled with ⟨noFault, hasReceived⟩
  cases refilling with
  | failed happened =>
      rw [happened] at noFault
      cases noFault
  | refusedNext happened isLong refused =>
      rw [happened] at hasReceived
      rcases hasReceived.stop isLong refused with ⟨rfl, rfl⟩
      exact refills_failedWith size_pos _ _
  | @refusedLast received source happened isShort refused =>
      rw [happened] at filled hasReceived
      rcases hasReceived.last isShort (filled.exhausted_of_short isShort).1 with ⟨rfl, rfl⟩
      rw [refused]
      exact refills_failedWith size_pos _ _
  | @openedNext received chunk source happened isLong notLast opened =>
      rw [happened] at hasReceived
      rcases hasReceived.next isLong notLast opened with ⟨later, rfl, hasOpened⟩
      have chunk_length := length_of_take (Nat.not_le_of_lt isLong)
        (openedChunk?_eq_some_iff.mp opened)
      refine ⟨⟨size_pos, later, failure, hasOpened, rfl⟩, Or.inl ?_⟩
      dsimp only
      omega
  | @openedLast received chunk source happened isShort opened =>
      rw [happened] at filled hasReceived
      rcases hasReceived.last isShort (filled.exhausted_of_short isShort).1 with ⟨rfl, rfl⟩
      rw [opened]
      refine ⟨⟨size_pos, [], none, .complete, ?_⟩, Or.inr rfl⟩
      simp [payloadOf, failureOf]

/-- A reader that has handed out all of its output has to produce whatever is still to come. -/
theorem HasOutlook.of_spent (hasOutlook : reader.HasOutlook outlook)
    (spent : reader.output.length ≤ reader.position) :
    ∃ rest failure, Produces reader.key reader.size reader.progress reader.ciphertext reader.source
        rest failure ∧
      outlook = ⟨rest, [], failure⟩ := by
  rcases hasOutlook with ⟨_, rest, failure, produces, rfl⟩
  refine ⟨rest, failure, produces, ?_⟩
  rw [List.drop_eq_nil_of_le spent, List.nil_append]

/-- A reader that has something to hand out or has come to its end needs no refill. -/
theorem HasOutlook.takes_readLoop_of_settled (hasOutlook : reader.HasOutlook outlook)
    (room_pos : 0 < room)
    (settled : reader.position < reader.output.length ∨ reader.progress = .complete ∨
      reader.progress = .failed) (fuel : Nat) :
    Takes room outlook (readLoop room fuel reader) := by
  rw [readLoop.eq_def]
  dsimp only
  by_cases waiting : reader.position < reader.output.length
  · rw [if_pos waiting]
    exact hasOutlook.drained room_pos waiting
  · rw [if_neg waiting]
    rcases hasOutlook.of_spent (Nat.le_of_not_lt waiting) with ⟨rest, failure, produces, rfl⟩
    rcases settled with stillWaiting | isComplete | hasFailed
    · exact absurd stillWaiting waiting
    · rw [isComplete] at produces ⊢
      cases produces with
      | complete => exact ⟨_, .ended room_pos, hasOutlook⟩
    · rw [hasFailed] at produces ⊢
      cases produces with
      | failed => exact ⟨_, .ended room_pos, hasOutlook⟩

theorem HasOutlook.takes_readLoop_of_chunks (hasOutlook : reader.HasOutlook outlook)
    (room_pos : 0 < room) {label : ByteString} {number : UInt32}
    (progress_eq : reader.progress = .chunks label number) (fuel : Nat) :
    Takes room outlook (readLoop room (fuel + 1) reader) := by
  by_cases waiting : reader.position < reader.output.length
  · exact hasOutlook.takes_readLoop_of_settled room_pos (Or.inl waiting) (fuel + 1)
  · rcases hasOutlook.of_spent (Nat.le_of_not_lt waiting) with ⟨rest, failure, produces, rfl⟩
    rw [progress_eq] at produces
    have refills := refills_refillChunk hasOutlook.1 produces
    rw [readLoop.eq_def]
    dsimp only
    rw [if_neg waiting, progress_eq]
    dsimp only
    generalize reader.refillChunk label number = outcome at refills
    rcases outcome with ⟨_ | error, refilled⟩
    · rcases refills with ⟨hasRefilled, settled⟩
      apply hasRefilled.takes_readLoop_of_settled room_pos
      rcases settled with stillWaiting | isComplete
      · exact Or.inl stillWaiting
      · exact Or.inr (Or.inl isComplete)
    · rcases refills with ⟨rfl, outlook_eq, hasFailed⟩
      rw [outlook_eq] at hasFailed ⊢
      exact ⟨_, .ended room_pos, hasFailed⟩

theorem HasOutlook.takes_readLoop_of_label (hasOutlook : reader.HasOutlook outlook)
    (room_pos : 0 < room) (progress_eq : reader.progress = .label) (fuel : Nat) :
    Takes room outlook (readLoop room (fuel + 2) reader) := by
  by_cases waiting : reader.position < reader.output.length
  · exact hasOutlook.takes_readLoop_of_settled room_pos (Or.inl waiting) (fuel + 2)
  · rcases hasOutlook.of_spent (Nat.le_of_not_lt waiting) with ⟨rest, failure, produces, rfl⟩
    rw [progress_eq] at produces
    have refills := refills_refillLabel hasOutlook.1 produces
    rw [readLoop.eq_def]
    dsimp only
    rw [if_neg waiting, progress_eq]
    dsimp only
    generalize reader.refillLabel = outcome at refills
    rcases outcome with ⟨_ | error, refilled⟩
    · rcases refills with ⟨hasRefilled, label, number, readsChunks⟩
      exact hasRefilled.takes_readLoop_of_chunks room_pos readsChunks fuel
    · rcases refills with ⟨rfl, outlook_eq, hasFailed⟩
      rw [outlook_eq] at hasFailed ⊢
      exact ⟨_, .ended room_pos, hasFailed⟩

/-- A reader that has done nothing yet has ahead of it what the bytes of its source open to. -/
theorem hasOutlook_initial (key : ByteString) {size : Nat} (size_pos : 0 < size) {source : Source}
    (flowing : source.Flowing) (faultless : source.faults = []) :
    (initial source key size).HasOutlook ⟨payloadOf (openStream key size source.bytes), [],
      failureOf (openStream key size source.bytes)⟩ :=
  ⟨size_pos, _, _, .label flowing faultless, rfl⟩

theorem keepsTo_read : KeepsTo OpeningReader.read HasOutlook := by
  intro reader outlook room hasOutlook
  unfold OpeningReader.read
  by_cases noRoom : room = 0
  · rw [if_pos noRoom]
    exact ⟨outlook, .idle noRoom, hasOutlook⟩
  · have room_pos := Nat.pos_of_ne_zero noRoom
    rw [if_neg noRoom]
    cases progress_eq : reader.progress with
    | label => exact hasOutlook.takes_readLoop_of_label room_pos progress_eq _
    | chunks label number => exact hasOutlook.takes_readLoop_of_chunks room_pos progress_eq _
    | complete => exact hasOutlook.takes_readLoop_of_settled room_pos (Or.inr (Or.inl progress_eq)) _
    | failed => exact hasOutlook.takes_readLoop_of_settled room_pos (Or.inr (Or.inr progress_eq)) _

end OpeningReader

/-- Whatever way the bytes of a source that does not fail arrive in and whatever the rooms, reading
reaches the end with a payload exactly if the bytes are a stream of it. Otherwise it returns the chunks
that lead the stream and fails from then on. -/
theorem opening_accepts_streams {key : ByteString} (key_length : key.length = keySize) {size : Nat}
    (size_pos : 0 < size) {source : Source} (flowing : source.Flowing)
    (faultless : source.faults = []) :
    ∃ reader, OpeningReader.start source key size = .ok reader ∧
      ∀ rooms : Nat → Nat, (∀ position, 0 < rooms position) →
        (∀ payload, ReachesEnd OpeningReader.read reader rooms payload ↔
          IsStreamOf key size payload source.bytes) ∧
        ((∀ payload, ¬IsStreamOf key size payload source.bytes) →
          ∃ chunks, IsLeading key size source.bytes chunks ∧
            FailsAfter OpeningReader.read reader rooms chunks.flatten .notAuthentic) := by
  have hasOutlook := OpeningReader.hasOutlook_initial key size_pos flowing faultless
  refine ⟨_, OpeningReader.start_eq_initial source key_length size, ?_⟩
  intro rooms rooms_pos
  constructor
  · intro payload
    rw [isStreamOf_iff_payloadOf]
    exact OpeningReader.keepsTo_read.reachesEnd_iff hasOutlook rooms_pos rfl
  · intro noStream
    rcases opened_of_not_isStreamOf noStream with ⟨payload_eq, failure_eq⟩
    rw [payload_eq, failure_eq] at hasOutlook
    exact ⟨_, isLeading_openStream key size source.bytes,
      OpeningReader.keepsTo_read.failsAfter hasOutlook rooms_pos⟩

theorem opening_accepts_streams_in_parts :
    (∃ reader, OpeningReader.start
        ⟨[.fault .interrupted,
          .data (wire (List.replicate 32 0) [9, 8, 7, 6, 5, 4, 3] [[1, 2]] [3])], some 5⟩
        (List.replicate 32 0) 2 = .ok reader ∧
      ReachesEnd OpeningReader.read reader (fun _ => 1) [1, 2, 3]) ∧
    ∃ reader, OpeningReader.start ⟨[.data [9, 8, 7], .data [6]], none⟩ (List.replicate 32 0) 2 =
        .ok reader ∧
      FailsAfter OpeningReader.read reader (fun _ => 1) [] .notAuthentic := by
  constructor
  · rcases @opening_accepts_streams (List.replicate 32 0) (by decide) 2 (by decide)
        ⟨[.fault .interrupted,
          .data (wire (List.replicate 32 0) [9, 8, 7, 6, 5, 4, 3] [[1, 2]] [3])], some 5⟩
        ⟨by simp, by decide⟩ rfl with ⟨reader, started, reads⟩
    rcases reads (fun _ => 1) (fun _ => Nat.one_pos) with ⟨reachesEnd_iff, _⟩
    refine ⟨reader, started, (reachesEnd_iff [1, 2, 3]).mpr ?_⟩
    refine ⟨[9, 8, 7, 6, 5, 4, 3], [[1, 2]], [3], rfl, by decide, by decide, by decide, rfl, ?_⟩
    exact List.append_nil _
  · rcases @opening_accepts_streams (List.replicate 32 0) (by decide) 2 (by decide)
        ⟨[.data [9, 8, 7], .data [6]], none⟩ ⟨by decide, by decide⟩ rfl with
      ⟨reader, started, reads⟩
    rcases reads (fun _ => 1) (fun _ => Nat.one_pos) with ⟨_, failsAfter⟩
    have noStream (payload : ByteString) :
        ¬IsStreamOf (List.replicate 32 0) 2 payload [9, 8, 7, 6] := by
      rintro ⟨label, chunks, last, label_length, _, _, _, _, sealed_eq⟩
      have length_eq := congrArg List.length sealed_eq
      simp [wire, label_length, labelSize] at length_eq
      omega
    rcases failsAfter noStream with ⟨chunks, ⟨leads, _⟩, fails⟩
    rw [leads.eq_nil rfl] at fails
    exact ⟨reader, started, fails⟩

end SealedStream

end KeyCustody

import KeyCustody.Proofs.SealedStream.Log
import KeyCustody.Proofs.SealedStream.Ranges

/-!
# Buffers within bounds

A read is carried out here with its ranges checked and with a budget of refills, and gives nothing if a
range is out of bounds or the budget runs out. The buffers of a reader never hold more than one chunk with
its tag and the byte after it (`WithinBounds`), every read keeps it so, and from such a reader the checked
read comes to the same as the read, with a budget of two refills.
-/

namespace KeyCustody

namespace SealedStream

theorem length_sealedChunk (key label : ByteString) (number : UInt32) (isLast : Bool)
    (chunk : ByteString) :
    (sealedChunk key label number isLast chunk).length = chunk.length + Gcm.tagSize :=
  Gcm.length_encrypt _ _ chunk

namespace SealingReader

/-- The state of a sealing reader over chunks of a size, as it is at all times. -/
structure WithinBounds (size : Nat) (reader : SealingReader) : Prop where
  size_eq : reader.size = size
  position_le : reader.position ≤ reader.output.length
  plaintext_length_le : reader.plaintext.length ≤ size + 1
  output_length_le : reader.output.length ≤ max labelSize (size + Gcm.tagSize)

/-- A refill with its ranges checked. -/
def refill? (reader : SealingReader) (number : UInt32) :
    Option (Option StreamError × SealingReader) := do
  let ⟨plaintext, source, fault?⟩ ← reader.source.fillBuffer? reader.plaintext (reader.size + 1)
  let filled := { reader with source, plaintext, output := [], position := 0 }
  match fault? with
  | some fault => return (some (.source fault), filled)
  | none =>
    if plaintext.length > reader.size then
      let chunk ← range? plaintext 0 reader.size
      if number = lastNumber then return (some .chunkLimitExceeded, filled)
      else
        let rest ← range? plaintext reader.size plaintext.length
        return (none,
          { filled with
            output := sealedChunk reader.key reader.label number false chunk
            plaintext := rest
            number := some (number + 1) })
    else
      return (none,
        { filled with
          output := sealedChunk reader.key reader.label number true plaintext
          plaintext := []
          number := none })

/-- The loop of a read with room for at least one byte: it hands out what waits, or refills and tries
again. It gives nothing once the refills are used up. -/
def readLoop? (room refills : Nat) (reader : SealingReader) :
    Option (Except StreamError ByteString × SealingReader) :=
  if reader.position < reader.output.length then
    (handOut? reader.output reader.position room).map fun (handed, position) =>
      (.ok handed, { reader with position })
  else
    match reader.number, refills with
    | none, _ => some (.ok [], reader)
    | some _, 0 => none
    | some number, refills + 1 =>
      match reader.refill? number with
      | none => none
      | some (some error, refilled) => some (.error error, refilled)
      | some (none, refilled) => readLoop? room refills refilled

/-- A read with its ranges checked that refills at most `refills` times. -/
def read? (refills : Nat) (reader : SealingReader) (room : Nat) :
    Option (Except StreamError ByteString × SealingReader) :=
  if room = 0 then some (.ok [], reader) else readLoop? room refills reader

variable {size : Nat} {reader : SealingReader}

theorem withinBounds_initial (source : Source) (key : ByteString) {label : ByteString}
    (label_length : label.length = labelSize) (size : Nat) :
    (initial source key label size).WithinBounds size where
  size_eq := rfl
  position_le := Nat.zero_le _
  plaintext_length_le := Nat.zero_le _
  output_length_le := by
    rw [label_length]
    exact Nat.le_max_left _ _

theorem refill?_eq (bounds : reader.WithinBounds size) (number : UInt32) :
    reader.refill? number = some (reader.refill number) := by
  have length_le : reader.plaintext.length ≤ reader.size + 1 := by
    rw [bounds.size_eq]
    exact bounds.plaintext_length_le
  rw [refill?, Source.fillBuffer?_eq length_le, SealingReader.refill]
  rcases reader.source.fill (reader.size + 1 - reader.plaintext.length) with
    ⟨received, source, _ | fault⟩
  · dsimp only [Option.bind_eq_bind, Option.bind_some]
    by_cases isLong : reader.size < (reader.plaintext ++ received).length
    · rw [if_pos isLong, if_pos isLong, range?_zero (Nat.le_of_lt isLong)]
      dsimp only [Option.bind_some]
      by_cases isLast : number = lastNumber
      · rw [if_pos isLast, if_pos isLast]
        rfl
      · rw [if_neg isLast, if_neg isLast, range?_length (Nat.le_of_lt isLong)]
        rfl
    · rw [if_neg isLong, if_neg isLong]
      rfl
  · rfl

theorem WithinBounds.refill (bounds : reader.WithinBounds size) (number : UInt32) :
    (reader.refill number).2.WithinBounds size := by
  have refilling := reader.refilling_refill number
  rcases bounds with ⟨rfl, position_le, plaintext_le, output_le⟩
  generalize reader.refill number = outcome at refilling ⊢
  rcases outcome with ⟨error?, refilled⟩
  dsimp only at refilling ⊢
  cases refilling with
  | failed filled =>
      have received_le := (Source.bytes_fill filled).1
      refine ⟨rfl, Nat.le_refl 0, ?_, Nat.zero_le _⟩
      simp only [List.length_append]
      omega
  | exceeded filled =>
      have received_le := (Source.bytes_fill filled).1
      refine ⟨rfl, Nat.le_refl 0, ?_, Nat.zero_le _⟩
      simp only [List.length_append]
      omega
  | sealedNext filled isLong =>
      have received_le := (Source.bytes_fill filled).1
      refine ⟨rfl, Nat.zero_le _, ?_, ?_⟩
      · simp only [List.length_drop, List.length_append]
        omega
      · simp only [length_sealedChunk, List.length_take]
        omega
  | sealedLast filled isShort =>
      refine ⟨rfl, Nat.zero_le _, Nat.zero_le _, ?_⟩
      simp only [length_sealedChunk]
      omega

theorem WithinBounds.drained (bounds : reader.WithinBounds size) (room : Nat) :
    { reader with position := (drain reader.output reader.position room).2 }.WithinBounds size where
  size_eq := bounds.size_eq
  position_le := drain_le bounds.position_le room
  plaintext_length_le := bounds.plaintext_length_le
  output_length_le := bounds.output_length_le

theorem readLoop?_of_waiting (bounds : reader.WithinBounds size) {room refills : Nat}
    (waiting : reader.position < reader.output.length) :
    readLoop? room refills reader = some (.ok (drain reader.output reader.position room).1,
      { reader with position := (drain reader.output reader.position room).2 }) := by
  rw [readLoop?.eq_def, if_pos waiting, handOut?_eq bounds.position_le]
  rfl

theorem WithinBounds.read (bounds : reader.WithinBounds size) (room : Nat) :
    (reader.read room).2.WithinBounds size := by
  unfold SealingReader.read
  by_cases noRoom : room = 0
  · rw [if_pos noRoom]
    exact bounds
  · by_cases waiting : reader.position < reader.output.length
    · rw [if_neg noRoom, if_pos waiting]
      exact bounds.drained room
    · rw [if_neg noRoom, if_neg waiting]
      cases reader.number with
      | none => exact bounds
      | some number =>
          have refilled := bounds.refill number
          dsimp only
          generalize reader.refill number = outcome at refilled ⊢
          rcases outcome with ⟨_ | error, next⟩
          · exact refilled.drained room
          · exact refilled

theorem read?_eq (bounds : reader.WithinBounds size) (room : Nat) :
    reader.read? 2 room = some (reader.read room) := by
  unfold read? SealingReader.read
  by_cases noRoom : room = 0
  · rw [if_pos noRoom, if_pos noRoom]
  · rw [if_neg noRoom, if_neg noRoom]
    by_cases waiting : reader.position < reader.output.length
    · rw [if_pos waiting, readLoop?_of_waiting bounds waiting]
    · rw [if_neg waiting, readLoop?.eq_def, if_neg waiting]
      cases reader.number with
      | none => rfl
      | some number =>
          have refilled := bounds.refill number
          dsimp only
          rw [refill?_eq bounds]
          rcases happened : reader.refill number with ⟨_ | error, next⟩
          · rw [happened] at refilled
            exact readLoop?_of_waiting refilled (waits_of_refill happened)
          · rfl

end SealingReader

namespace OpeningReader

/-- The state of an opening reader over chunks of a size, as it is at all times. -/
structure WithinBounds (size : Nat) (reader : OpeningReader) : Prop where
  size_eq : reader.size = size
  position_le : reader.position ≤ reader.output.length
  ciphertext_length_le : reader.ciphertext.length ≤ size + Gcm.tagSize + 1
  output_length_le : reader.output.length ≤ size

/-- Reading the label with its ranges checked; the label has to fit into the nonce. -/
def refillLabel? (reader : OpeningReader) : Option (Option StreamError × OpeningReader) := do
  let ⟨label, source, fault?⟩ ← reader.source.fillBuffer? [] labelSize
  let failed := { reader with source, progress := .failed, output := [], position := 0 }
  match fault? with
  | some fault => return (some (.source fault), failed)
  | none =>
    if label.length < labelSize then return (some .notAuthentic, failed)
    else
      guard (label.length = labelSize)
      return (none, { failed with progress := .chunks label 0 })

/-- Opening the next chunk with its ranges checked. -/
def refillChunk? (reader : OpeningReader) (label : ByteString) (number : UInt32) :
    Option (Option StreamError × OpeningReader) := do
  let sealedSize := reader.size + Gcm.tagSize
  let ⟨ciphertext, source, fault?⟩ ← reader.source.fillBuffer? reader.ciphertext (sealedSize + 1)
  let failed :=
    { reader with source, progress := .failed, ciphertext, output := [], position := 0 }
  match fault? with
  | some fault => return (some (.source fault), failed)
  | none =>
    if ciphertext.length > sealedSize then
      let sealed ← range? ciphertext 0 sealedSize
      if number = lastNumber then return (some .notAuthentic, failed)
      else
        match openedChunk? reader.key label number false sealed with
        | none => return (some .notAuthentic, failed)
        | some chunk =>
          let rest ← range? ciphertext sealedSize ciphertext.length
          return (none,
            { failed with
              progress := .chunks label (number + 1), ciphertext := rest, output := chunk })
    else
      match openedChunk? reader.key label number true ciphertext with
      | none => return (some .notAuthentic, failed)
      | some chunk =>
        return (none, { failed with progress := .complete, ciphertext := [], output := chunk })

/-- The loop of a read with room for at least one byte: it hands out what waits, or refills and tries
again. It gives nothing once the refills are used up. -/
def readLoop? (room refills : Nat) (reader : OpeningReader) :
    Option (Except StreamError ByteString × OpeningReader) :=
  if reader.position < reader.output.length then
    (handOut? reader.output reader.position room).map fun (handed, position) =>
      (.ok handed, { reader with position })
  else
    match reader.progress, refills with
    | .complete, _ => some (.ok [], reader)
    | .failed, _ => some (.error .notAuthentic, reader)
    | _, 0 => none
    | .label, refills + 1 =>
      match reader.refillLabel? with
      | none => none
      | some (some error, refilled) => some (.error error, refilled)
      | some (none, refilled) => readLoop? room refills refilled
    | .chunks label number, refills + 1 =>
      match reader.refillChunk? label number with
      | none => none
      | some (some error, refilled) => some (.error error, refilled)
      | some (none, refilled) => readLoop? room refills refilled

/-- A read with its ranges checked that refills at most `refills` times. -/
def read? (refills : Nat) (reader : OpeningReader) (room : Nat) :
    Option (Except StreamError ByteString × OpeningReader) :=
  if room = 0 then some (.ok [], reader) else readLoop? room refills reader

variable {size : Nat} {reader : OpeningReader}

theorem withinBounds_initial (source : Source) (key : ByteString) (size : Nat) :
    (initial source key size).WithinBounds size :=
  ⟨rfl, Nat.le_refl 0, Nat.zero_le _, Nat.zero_le _⟩

theorem refillLabel?_eq (reader : OpeningReader) : reader.refillLabel? = some reader.refillLabel := by
  rw [refillLabel?, Source.fillBuffer?_eq (Nat.zero_le labelSize), refillLabel]
  rcases filled : reader.source.fill labelSize with ⟨received, source, _ | fault⟩
  · have received_le := (Source.bytes_fill filled).1
    dsimp only [Option.bind_eq_bind, Option.bind_some, List.nil_append]
    by_cases isShort : received.length < labelSize
    · rw [if_pos isShort, if_pos isShort]
      rfl
    · have length_eq : received.length = labelSize := by omega
      rw [if_neg isShort, if_neg isShort]
      simp [length_eq]
  · rfl

theorem refillChunk?_eq (bounds : reader.WithinBounds size) (label : ByteString) (number : UInt32) :
    reader.refillChunk? label number = some (reader.refillChunk label number) := by
  have length_le : reader.ciphertext.length ≤ reader.size + Gcm.tagSize + 1 := by
    rw [bounds.size_eq]
    exact bounds.ciphertext_length_le
  rw [refillChunk?, Source.fillBuffer?_eq length_le, refillChunk]
  rcases reader.source.fill (reader.size + Gcm.tagSize + 1 - reader.ciphertext.length) with
    ⟨received, source, _ | fault⟩
  · dsimp only [Option.bind_eq_bind, Option.bind_some]
    by_cases isLong : reader.size + Gcm.tagSize < (reader.ciphertext ++ received).length
    · rw [if_pos isLong, if_pos isLong, range?_zero (Nat.le_of_lt isLong)]
      dsimp only [Option.bind_some]
      by_cases isLast : number = lastNumber
      · rw [if_pos isLast, if_pos isLast]
        rfl
      · rw [if_neg isLast, if_neg isLast, range?_length (Nat.le_of_lt isLong)]
        cases openedChunk? reader.key label number false
            ((reader.ciphertext ++ received).take (reader.size + Gcm.tagSize)) with
        | none => rfl
        | some chunk => rfl
    · rw [if_neg isLong, if_neg isLong]
      cases openedChunk? reader.key label number true (reader.ciphertext ++ received) with
      | none => rfl
      | some chunk => rfl
  · rfl

theorem WithinBounds.drained (bounds : reader.WithinBounds size) (room : Nat) :
    { reader with position := (drain reader.output reader.position room).2 }.WithinBounds size where
  size_eq := bounds.size_eq
  position_le := drain_le bounds.position_le room
  ciphertext_length_le := bounds.ciphertext_length_le
  output_length_le := bounds.output_length_le

theorem WithinBounds.refillLabel (bounds : reader.WithinBounds size) :
    reader.refillLabel.2.WithinBounds size := by
  have refilling := reader.labelRefilling_refillLabel
  have reset {source : Source} {progress : Progress} :
      WithinBounds size { reader with source, progress, output := [], position := 0 } :=
    ⟨bounds.size_eq, Nat.le_refl 0, bounds.ciphertext_length_le, Nat.zero_le _⟩
  generalize reader.refillLabel = outcome at refilling ⊢
  rcases outcome with ⟨error?, refilled⟩
  dsimp only at refilling ⊢
  cases refilling with
  | failed => exact reset
  | cutShort => exact reset
  | labelled => exact reset

theorem length_of_openedChunk? {key label sealed chunk : ByteString} {number : UInt32} {isLast : Bool}
    (opened : openedChunk? key label number isLast sealed = some chunk) :
    sealed.length = chunk.length + Gcm.tagSize := by
  rw [openedChunk?_eq_some_iff.mp opened, length_wireChunk]

theorem WithinBounds.refillChunk (bounds : reader.WithinBounds size) (label : ByteString)
    (number : UInt32) : (reader.refillChunk label number).2.WithinBounds size := by
  have refilling := reader.chunkRefilling_refillChunk label number
  rcases bounds with ⟨rfl, position_le, ciphertext_le, output_le⟩
  have appended_le {received : ByteString} {source : Source} {fault : Option ReadFault}
      (filled : reader.filling = ⟨received, source, fault⟩) :
      (reader.ciphertext ++ received).length ≤ reader.size + Gcm.tagSize + 1 := by
    have received_le := (Source.bytes_fill filled).1
    rw [List.length_append]
    omega
  generalize reader.refillChunk label number = outcome at refilling ⊢
  rcases outcome with ⟨error?, refilled⟩
  dsimp only at refilling ⊢
  cases refilling with
  | failed filled => exact ⟨rfl, Nat.le_refl 0, appended_le filled, Nat.zero_le _⟩
  | refusedNext filled => exact ⟨rfl, Nat.le_refl 0, appended_le filled, Nat.zero_le _⟩
  | refusedLast filled => exact ⟨rfl, Nat.le_refl 0, appended_le filled, Nat.zero_le _⟩
  | openedNext filled isLong notLast opened =>
      have chunk_length := length_of_openedChunk? opened
      have whole_le := appended_le filled
      refine ⟨rfl, Nat.zero_le _, ?_, ?_⟩
      · rw [List.length_drop]
        omega
      · rw [List.length_take] at chunk_length
        dsimp only
        omega
  | openedLast filled isShort opened =>
      have chunk_length := length_of_openedChunk? opened
      refine ⟨rfl, Nat.zero_le _, Nat.zero_le _, ?_⟩
      dsimp only
      omega

/-- Bytes are waiting, or the stream has ended or failed: a read does not refill. -/
def Settled (reader : OpeningReader) : Prop :=
  reader.position < reader.output.length ∨ reader.progress = .complete ∨ reader.progress = .failed

/-- After a chunk has been opened there is something to hand out, or the stream has ended. -/
theorem settled_of_refillChunk {label : ByteString} {number : UInt32} {refilled : OpeningReader}
    (size_pos : 0 < reader.size) (happened : reader.refillChunk label number = (none, refilled)) :
    refilled.Settled := by
  have refilling := reader.chunkRefilling_refillChunk label number
  rw [happened] at refilling
  cases refilling with
  | openedNext filled isLong notLast opened =>
      left
      have chunk_length := length_of_openedChunk? opened
      rw [List.length_take] at chunk_length
      dsimp only
      omega
  | openedLast => exact .inr (.inl rfl)

theorem progress_of_refillLabel {refilled : OpeningReader}
    (happened : reader.refillLabel = (none, refilled)) :
    ∃ label number, refilled.progress = .chunks label number := by
  have refilling := reader.labelRefilling_refillLabel
  rw [happened] at refilling
  cases refilling with
  | labelled => exact ⟨_, _, rfl⟩

theorem WithinBounds.readLoop (bounds : reader.WithinBounds size) (room fuel : Nat) :
    (reader.readLoop room fuel).2.WithinBounds size := by
  fun_induction OpeningReader.readLoop room fuel reader with
  | case1 fuel reader waiting handed position drain_eq =>
      have stillWithin := bounds.drained room
      rw [drain_eq] at stillWithin
      exact stillWithin
  | case2 => exact bounds
  | case3 => exact bounds
  | case4 => exact ⟨bounds.1, bounds.2, bounds.3, bounds.4⟩
  | case5 reader waits fuel isLabel error refilled happened =>
      have stillWithin := bounds.refillLabel
      rw [happened] at stillWithin
      exact stillWithin
  | case6 reader waits fuel isLabel refilled happened ih =>
      have stillWithin := bounds.refillLabel
      rw [happened] at stillWithin
      exact ih stillWithin
  | case7 reader waits label number fuel isChunks error refilled happened =>
      have stillWithin := bounds.refillChunk label number
      rw [happened] at stillWithin
      exact stillWithin
  | case8 reader waits label number fuel isChunks refilled happened ih =>
      have stillWithin := bounds.refillChunk label number
      rw [happened] at stillWithin
      exact ih stillWithin

theorem WithinBounds.read (bounds : reader.WithinBounds size) (room : Nat) :
    (reader.read room).2.WithinBounds size := by
  unfold OpeningReader.read
  by_cases noRoom : room = 0
  · rw [if_pos noRoom]
    exact bounds
  · rw [if_neg noRoom]
    exact bounds.readLoop room _

theorem readLoop?_of_settled (bounds : reader.WithinBounds size) (room refills fuel : Nat)
    (settled : reader.Settled) :
    readLoop? room refills reader = some (reader.readLoop room fuel) := by
  rw [readLoop?.eq_def, OpeningReader.readLoop.eq_def]
  dsimp only
  by_cases waiting : reader.position < reader.output.length
  · rw [if_pos waiting, if_pos waiting, handOut?_eq bounds.position_le]
    rfl
  · rw [if_neg waiting, if_neg waiting]
    rcases settled.resolve_left waiting with isComplete | hasFailed
    · rw [isComplete]
    · rw [hasFailed]

theorem readLoop?_of_chunks (bounds : reader.WithinBounds size) (size_pos : 0 < size)
    (room refills fuel : Nat) {label : ByteString} {number : UInt32}
    (isChunks : reader.progress = .chunks label number) :
    readLoop? room (refills + 1) reader = some (reader.readLoop room (fuel + 1)) := by
  by_cases waiting : reader.position < reader.output.length
  · exact readLoop?_of_settled bounds room _ _ (.inl waiting)
  · rw [readLoop?.eq_def, OpeningReader.readLoop.eq_def]
    simp only [if_neg waiting, isChunks, refillChunk?_eq bounds]
    have stillWithin := bounds.refillChunk label number
    rcases happened : reader.refillChunk label number with ⟨_ | error, refilled⟩
    · rw [happened] at stillWithin
      rw [← bounds.size_eq] at size_pos
      exact readLoop?_of_settled stillWithin room _ _ (settled_of_refillChunk size_pos happened)
    · rfl

theorem readLoop?_of_label (bounds : reader.WithinBounds size) (size_pos : 0 < size)
    (room refills fuel : Nat) (isLabel : reader.progress = .label) :
    readLoop? room (refills + 2) reader = some (reader.readLoop room (fuel + 2)) := by
  by_cases waiting : reader.position < reader.output.length
  · exact readLoop?_of_settled bounds room _ _ (.inl waiting)
  · rw [readLoop?.eq_def, OpeningReader.readLoop.eq_def]
    simp only [if_neg waiting, isLabel, refillLabel?_eq]
    have stillWithin := bounds.refillLabel
    rcases happened : reader.refillLabel with ⟨_ | error, refilled⟩
    · rw [happened] at stillWithin
      rcases progress_of_refillLabel happened with ⟨label, number, isChunks⟩
      exact readLoop?_of_chunks stillWithin size_pos room _ _ isChunks
    · rfl

/-- A read of a reader within its bounds stays in range and needs no more than two refills. -/
theorem read?_eq (bounds : reader.WithinBounds size) (size_pos : 0 < size) (room : Nat) :
    reader.read? 2 room = some (reader.read room) := by
  unfold read? OpeningReader.read
  by_cases noRoom : room = 0
  · rw [if_pos noRoom, if_pos noRoom]
  · rw [if_neg noRoom, if_neg noRoom]
    cases progress_eq : reader.progress with
    | label => exact readLoop?_of_label bounds size_pos room 0 _ progress_eq
    | chunks label number => exact readLoop?_of_chunks bounds size_pos room 1 _ progress_eq
    | complete => exact readLoop?_of_settled bounds room 2 _ (.inr (.inl progress_eq))
    | failed => exact readLoop?_of_settled bounds room 2 _ (.inr (.inr progress_eq))

end OpeningReader

end SealedStream

end KeyCustody

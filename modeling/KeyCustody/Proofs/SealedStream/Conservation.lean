import KeyCustody.Proofs.SealedStream.Bounds
import KeyCustody.Proofs.SealedStream.Failure
import KeyCustody.Proofs.SealedStream.Limit

/-!
# No byte is lost

Whatever its source does, the bytes that a reader has taken from it are those of the chunks that it has
sealed or opened and those in its buffer, in their order: none is dropped and none is taken twice. For an
opening reader this holds until it fails, and a failed one hands out nothing more anyway.
-/

namespace KeyCustody

namespace SealedStream

/-- The chunk that sealed bytes hold at their place. -/
def PlacedChunk.payload (key : ByteString) (placed : PlacedChunk) : ByteString :=
  (Gcm.decrypt? key placed.nonce placed.sealed).getD []

theorem PlacedChunk.OpensTo.payload_eq {key chunk : ByteString} {placed : PlacedChunk}
    (opensTo : placed.OpensTo key chunk) : placed.payload key = chunk := by
  rw [payload, opensTo, Option.getD_some]

theorem payload_sealedChunk (key label : ByteString) (number : UInt32) (isLast : Bool)
    (chunk : ByteString) :
    PlacedChunk.payload key
      ⟨chunkNonce label number isLast, sealedChunk key label number isLast chunk⟩ = chunk := by
  apply PlacedChunk.OpensTo.payload_eq
  exact Gcm.decrypt?_encrypt _ _ chunk

theorem flatMap_payload {key : ByteString} {placed : List PlacedChunk} {chunks : List ByteString}
    (open_all : List.Forall₂ (PlacedChunk.OpensTo key) placed chunks) :
    placed.flatMap (PlacedChunk.payload key) = chunks.flatten := by
  induction open_all with
  | nil => rfl
  | cons opensTo _ ih => rw [List.flatMap_cons, List.flatten_cons, opensTo.payload_eq, ih]

namespace SealingReader

/-- A reader with the chunks that it has sealed: they, the buffer and the source make up the whole. -/
structure Keeps (key whole : ByteString) (placed : List PlacedChunk) (reader : SealingReader) :
    Prop where
  key_eq : reader.key = key
  whole_eq : placed.flatMap (PlacedChunk.payload key) ++ reader.plaintext ++ reader.source.bytes =
    whole

variable {key whole : ByteString} {placed : List PlacedChunk} {reader : SealingReader}

theorem keeps_initial (source : Source) (key label : ByteString) (size : Nat) :
    Keeps key source.bytes [] (initial source key label size) :=
  ⟨rfl, rfl⟩

/-- A refill that seals a chunk takes it off the buffer; any other only moves bytes into the buffer. -/
theorem Keeps.refill (keeps : Keeps key whole placed reader) (number : UInt32) :
    match reader.refill number with
    | (none, refilled) =>
      Keeps key whole
        (placed ++ [⟨chunkNonce reader.label number refilled.number.isNone, refilled.output⟩]) refilled
    | (some _, refilled) => Keeps key whole placed refilled := by
  rcases keeps with ⟨rfl, rfl⟩
  have refilling := reader.refilling_refill number
  generalize reader.refill number = outcome at refilling ⊢
  rcases outcome with ⟨error?, refilled⟩
  dsimp only at refilling ⊢
  cases refilling with
  | failed filled =>
      refine ⟨rfl, ?_⟩
      rw [(Source.bytes_fill filled).2]
      simp
  | exceeded filled =>
      refine ⟨rfl, ?_⟩
      rw [(Source.bytes_fill filled).2]
      simp
  | @sealedNext received source filled =>
      refine ⟨rfl, ?_⟩
      rw [(Source.bytes_fill filled).2]
      dsimp only
      rw [Option.isNone_some, List.flatMap_append, List.flatMap_singleton, payload_sealedChunk,
        List.append_assoc _ (List.take _ _), List.take_append_drop]
      simp
  | sealedLast filled =>
      refine ⟨rfl, ?_⟩
      rw [(Source.bytes_fill filled).2]
      dsimp only
      rw [Option.isNone_none, List.flatMap_append, List.flatMap_singleton, payload_sealedChunk]
      simp

theorem maintains_keeps (key whole : ByteString) :
    Maintains SealingReader.read sealedIn fun _ => Keeps key whole := by
  rintro _ placed reader room keeps
  unfold sealedIn SealingReader.read
  by_cases noRoom : room = 0
  · rw [if_pos (Or.inl noRoom), if_pos noRoom, List.append_nil]
    exact keeps
  · by_cases waiting : reader.position < reader.output.length
    · rw [if_pos (Or.inr waiting), if_neg noRoom, if_pos waiting, List.append_nil]
      exact ⟨keeps.key_eq, keeps.whole_eq⟩
    · rw [if_neg (not_or.mpr ⟨noRoom, waiting⟩), if_neg noRoom, if_neg waiting]
      cases reader.number with
      | none =>
          rw [List.append_nil]
          exact keeps
      | some number =>
          have refilled := keeps.refill number
          dsimp only
          generalize reader.refill number = outcome at refilled ⊢
          rcases outcome with ⟨_ | error, next⟩
          · exact ⟨refilled.key_eq, refilled.whole_eq⟩
          · rw [List.append_nil]
            exact refilled

/-- A read returns at most as many bytes as there is room for. -/
theorem length_le_of_read {room : Nat} {bytes : ByteString}
    (returns : (reader.read room).1 = .ok bytes) : bytes.length ≤ room := by
  unfold SealingReader.read at returns
  by_cases noRoom : room = 0
  · rw [if_pos noRoom] at returns
    cases returns
    exact Nat.zero_le room
  · by_cases waiting : reader.position < reader.output.length
    · rw [if_neg noRoom, if_pos waiting] at returns
      cases returns
      exact length_drain_le reader.output reader.position room
    · rw [if_neg noRoom, if_neg waiting] at returns
      cases number_eq : reader.number with
      | none =>
          rw [number_eq] at returns
          cases returns
          exact Nat.zero_le room
      | some number =>
          rw [number_eq] at returns
          dsimp only at returns
          generalize reader.refill number = outcome at returns
          rcases outcome with ⟨_ | error, next⟩
          · cases returns
            exact length_drain_le next.output next.position room
          · cases returns

/-- What holds at all times of a sealing reader over a source, with what it has returned and sealed. -/
structure IsSound (size : Nat) (key label : ByteString) (source : Source) (handed : ByteString)
    (placed : List PlacedChunk) (reader : SealingReader) : Prop where
  bounds : reader.WithinBounds size
  /-- No range is out of bounds, and a read ends after two refills at most. -/
  inRange (room : Nat) : reader.read? 2 room = some (reader.read room)
  fits (room : Nat) (bytes : ByteString) (returns : (reader.read room).1 = .ok bytes) :
    bytes.length ≤ room
  /-- What was returned and what waits are the label and the sealed chunks. -/
  handed_eq : handed ++ reader.output.drop reader.position =
    label ++ placed.flatMap PlacedChunk.sealed
  /-- The payload of the sealed chunks, the buffer and the rest of the source are the whole source. -/
  source_eq : placed.flatMap (PlacedChunk.payload key) ++ reader.plaintext ++ reader.source.bytes =
    source.bytes

theorem isSound_readerAfter (source : Source) (key : ByteString) {label : ByteString}
    (label_length : label.length = labelSize) (size : Nat) (rooms : Nat → Nat) (count : Nat) :
    IsSound size key label source
      (returned SealingReader.read (initial source key label size) rooms count)
      (logged SealingReader.read sealedIn (initial source key label size) rooms count)
      (readerAfter SealingReader.read (initial source key label size) rooms count) := by
  have bounds := @holds_readerAfter _ SealingReader.read (WithinBounds size)
    (fun _ room within => within.read room) _ (withinBounds_initial source key label_length size)
    rooms count
  have keeps := @Maintains.run _ _ _ _ _ (maintains_keeps key source.bytes) [] [] _
    (keeps_initial source key label size) rooms count
  rcases (maintains_recorded key label).run (recorded_initial source key label size) rooms count with
    ⟨chunks, placed_eq, hasSealed⟩
  rw [List.nil_append] at placed_eq keeps
  refine ⟨bounds, read?_eq bounds, fun _ _ => length_le_of_read, ?_, keeps.whole_eq⟩
  rw [placed_eq]
  exact hasSealed.handed_eq

end SealingReader

namespace OpeningReader

/-- The label that has been read off the front of the source. -/
inductive HasRead : Progress → ByteString → Prop where
  | nothing : HasRead .label []
  | label {label : ByteString} {number : UInt32} (label_length : label.length = labelSize) :
      HasRead (.chunks label number) label
  | complete {label : ByteString} (label_length : label.length = labelSize) :
      HasRead .complete label

/-- A reader with the chunks that it has opened: the label, the chunks, the buffer and the source make up
the whole. -/
structure Keeps (whole : ByteString) (placed : List PlacedChunk) (reader : OpeningReader) :
    Prop where
  whole_eq : reader.progress ≠ .failed → ∃ label, HasRead reader.progress label ∧
    label ++ placed.flatMap PlacedChunk.sealed ++ reader.ciphertext ++ reader.source.bytes = whole
  /-- Before the label has been read, nothing else has. -/
  unlabelled : reader.progress = .label → placed = [] ∧ reader.ciphertext = []

variable {whole : ByteString} {placed : List PlacedChunk} {reader : OpeningReader}

theorem keeps_of_failed (hasFailed : reader.progress = .failed) : Keeps whole placed reader where
  whole_eq notFailed := absurd hasFailed notFailed
  unlabelled isLabel := by
    rw [hasFailed] at isLabel
    cases isLabel

theorem Keeps.refillLabel (keeps : Keeps whole placed reader)
    (isLabel : reader.progress = .label) : Keeps whole placed reader.refillLabel.2 := by
  have refilling := reader.labelRefilling_refillLabel
  rcases keeps.unlabelled isLabel with ⟨rfl, ciphertext_eq⟩
  rcases keeps.whole_eq (by simp [isLabel]) with ⟨label, hasRead, whole_eq⟩
  rw [isLabel] at hasRead
  cases hasRead
  generalize reader.refillLabel = outcome at refilling ⊢
  rcases outcome with ⟨error?, refilled⟩
  dsimp only at refilling ⊢
  cases refilling with
  | failed => exact keeps_of_failed rfl
  | cutShort => exact keeps_of_failed rfl
  | @labelled received source filled notShort =>
      rcases Source.bytes_fill filled with ⟨length_le, bytes_eq⟩
      refine ⟨fun _ => ⟨received, .label (Nat.le_antisymm length_le notShort), ?_⟩, ?_⟩
      · rw [bytes_eq, ciphertext_eq] at whole_eq
        simpa [ciphertext_eq] using whole_eq
      · rintro ⟨⟩

/-- A refill that opens a chunk takes it off the buffer. -/
theorem Keeps.refillChunk (keeps : Keeps whole placed reader) {label : ByteString}
    {number : UInt32} (isChunks : reader.progress = .chunks label number) :
    match reader.refillChunk label number with
    | (none, refilled) => Keeps whole (placed ++ [reader.attempt label number]) refilled
    | (some _, refilled) => Keeps whole placed refilled := by
  have refilling := reader.chunkRefilling_refillChunk label number
  rcases keeps.whole_eq (by simp [isChunks]) with ⟨label, hasRead, whole_eq⟩
  rw [isChunks] at hasRead
  cases hasRead with
  | label label_length =>
      generalize reader.refillChunk label number = outcome at refilling ⊢
      rcases outcome with ⟨error?, refilled⟩
      dsimp only at refilling ⊢
      cases refilling with
      | failed => exact keeps_of_failed rfl
      | refusedNext => exact keeps_of_failed rfl
      | refusedLast => exact keeps_of_failed rfl
      | @openedNext received chunk source filled isLong =>
          rw [(Source.bytes_fill filled).2] at whole_eq
          refine ⟨fun _ => ⟨label, .label label_length, ?_⟩, ?_⟩
          · rw [attempt_of_long filled isLong, ← whole_eq]
            have split_eq := List.take_append_drop (reader.size + Gcm.tagSize)
              (reader.ciphertext ++ received)
            simp only [List.flatMap_append, List.flatMap_singleton, List.append_assoc]
            rw [← List.append_assoc (List.take _ _), split_eq, List.append_assoc]
          · rintro ⟨⟩
      | @openedLast received last source filled isShort =>
          rw [(Source.bytes_fill filled).2] at whole_eq
          refine ⟨fun _ => ⟨label, .complete label_length, ?_⟩, ?_⟩
          · rw [attempt_of_short filled isShort, ← whole_eq]
            simp
          · rintro ⟨⟩

theorem Keeps.readLoop (keeps : Keeps whole placed reader) (room fuel : Nat) :
    Keeps whole (placed ++ openedLoop fuel reader) (reader.readLoop room fuel).2 := by
  fun_induction OpeningReader.readLoop room fuel reader generalizing placed with
  | case1 fuel reader waiting handed position drain_eq =>
      rw [openedLoop.eq_def]
      simp only [if_pos waiting, List.append_nil]
      cases drain_eq
      exact ⟨keeps.whole_eq, keeps.unlabelled⟩
  | case2 fuel reader spent isComplete =>
      rw [openedLoop.eq_def]
      simp only [if_neg spent, isComplete, List.append_nil]
      exact keeps
  | case3 fuel reader spent hasFailed =>
      rw [openedLoop.eq_def]
      simp only [if_neg spent, hasFailed, List.append_nil]
      exact keeps
  | case4 => exact keeps_of_failed rfl
  | case5 reader spent fuel isLabel error refilled happened =>
      have hasRefilled := keeps.refillLabel isLabel
      rw [happened] at hasRefilled
      rw [openedLoop.eq_def]
      simp only [if_neg spent, isLabel, happened, List.append_nil]
      exact hasRefilled
  | case6 reader spent fuel isLabel refilled happened ih =>
      have hasRefilled := keeps.refillLabel isLabel
      rw [happened] at hasRefilled
      rw [openedLoop.eq_def]
      simp only [if_neg spent, isLabel, happened]
      exact ih hasRefilled
  | case7 reader spent label number fuel isChunks error refilled happened =>
      have hasRefilled := keeps.refillChunk isChunks
      rw [happened] at hasRefilled
      rw [openedLoop.eq_def]
      simp only [if_neg spent, isChunks, happened, List.append_nil]
      exact hasRefilled
  | case8 reader spent label number fuel isChunks refilled happened ih =>
      have hasRefilled := keeps.refillChunk isChunks
      rw [happened] at hasRefilled
      have later := ih hasRefilled
      rw [List.append_assoc] at later
      rw [openedLoop.eq_def]
      simp only [if_neg spent, isChunks, happened]
      exact later

theorem maintains_keeps (whole : ByteString) :
    Maintains OpeningReader.read openedIn fun _ => Keeps whole := by
  intro _ placed reader room keeps
  unfold openedIn OpeningReader.read
  by_cases noRoom : room = 0
  · rw [if_pos noRoom, if_pos noRoom, List.append_nil]
    exact keeps
  · rw [if_neg noRoom, if_neg noRoom]
    exact keeps.readLoop room _

theorem length_le_of_readLoop {room fuel : Nat} {bytes : ByteString}
    (returns : (reader.readLoop room fuel).1 = .ok bytes) : bytes.length ≤ room := by
  fun_induction OpeningReader.readLoop room fuel reader with
  | case1 fuel reader waiting handed position drain_eq =>
      cases drain_eq
      cases returns
      exact length_drain_le reader.output reader.position room
  | case2 =>
      cases returns
      exact Nat.zero_le room
  | case3 => cases returns
  | case4 => cases returns
  | case5 => cases returns
  | case6 reader spent fuel isLabel refilled happened ih => exact ih returns
  | case7 => cases returns
  | case8 reader spent label number fuel isChunks refilled happened ih => exact ih returns

/-- A read returns at most as many bytes as there is room for. -/
theorem length_le_of_read {room : Nat} {bytes : ByteString}
    (returns : (reader.read room).1 = .ok bytes) : bytes.length ≤ room := by
  unfold OpeningReader.read at returns
  by_cases noRoom : room = 0
  · rw [if_pos noRoom] at returns
    cases returns
    exact Nat.zero_le room
  · rw [if_neg noRoom] at returns
    exact length_le_of_readLoop returns

/-- What holds at all times of an opening reader over a source, with what it has returned and opened. -/
structure IsSound (size : Nat) (key : ByteString) (source : Source) (handed : ByteString)
    (placed : List PlacedChunk) (reader : OpeningReader) : Prop where
  bounds : reader.WithinBounds size
  /-- No range is out of bounds, and a read ends after two refills at most. -/
  inRange (room : Nat) : reader.read? 2 room = some (reader.read room)
  fits (room : Nat) (bytes : ByteString) (returns : (reader.read room).1 = .ok bytes) :
    bytes.length ≤ room
  /-- What was returned and what waits are the payload of the opened chunks. -/
  handed_eq : handed ++ reader.output.drop reader.position =
    placed.flatMap (PlacedChunk.payload key)
  /-- The label, the opened chunks, the buffer and the rest of the source are the whole source. -/
  source_eq : reader.progress ≠ .failed → ∃ label,
    label.length = (if reader.progress = .label then 0 else labelSize) ∧
      label ++ placed.flatMap PlacedChunk.sealed ++ reader.ciphertext ++ reader.source.bytes =
        source.bytes

theorem HasRead.length_eq {progress : Progress} {label : ByteString}
    (hasRead : HasRead progress label) :
    label.length = if progress = .label then 0 else labelSize := by
  cases hasRead with
  | nothing => rfl
  | label label_length => simpa using label_length
  | complete label_length => simpa using label_length

theorem keeps_initial (source : Source) (key : ByteString) (size : Nat) :
    Keeps source.bytes [] (initial source key size) :=
  ⟨fun _ => ⟨[], .nothing, rfl⟩, fun _ => ⟨rfl, rfl⟩⟩

theorem isSound_readerAfter (source : Source) (key : ByteString) {size : Nat} (size_pos : 0 < size)
    (rooms : Nat → Nat) (count : Nat) :
    IsSound size key source
      (returned OpeningReader.read (initial source key size) rooms count)
      (logged OpeningReader.read openedIn (initial source key size) rooms count)
      (readerAfter OpeningReader.read (initial source key size) rooms count) := by
  have bounds := @holds_readerAfter _ OpeningReader.read (WithinBounds size)
    (fun _ room within => within.read room) _ (withinBounds_initial source key size) rooms count
  have keeps := @Maintains.run _ _ _ _ _ (maintains_keeps source.bytes) [] [] _
    (keeps_initial source key size) rooms count
  have recorded := (maintains_recorded key).run (recorded_initial source key size) rooms count
  rcases recorded.opensTo with ⟨label, opened, -, open_all, handed_eq⟩
  rw [List.nil_append] at keeps open_all handed_eq
  refine ⟨bounds, read?_eq bounds size_pos, fun _ _ => length_le_of_read, ?_, ?_⟩
  · rw [flatMap_payload open_all]
    exact handed_eq
  · intro notFailed
    rcases keeps.whole_eq notFailed with ⟨label, hasRead, whole_eq⟩
    exact ⟨label, hasRead.length_eq, whole_eq⟩

end OpeningReader

/-- Whatever the source does and however much room the reads have, both readers stay within their bounds at
all times, no range that they use is out of bounds, every read ends after two refills at most with no more
bytes than there is room for, and the bytes taken from the source are all there, each of them once. -/
theorem readers_stay_sound {Supply : Type} [ByteSupply Supply] (supply : Supply) {key : ByteString}
    (key_length : key.length = keySize) {size : Nat} (size_pos : 0 < size) (source : Source) :
    (∃ reader, (SealingReader.start source key size supply).1 = .ok reader ∧ ∀ rooms count,
      SealingReader.IsSound size key (ByteSupply.draw labelSize supply).1 source
        (returned SealingReader.read reader rooms count)
        (logged SealingReader.read SealingReader.sealedIn reader rooms count)
        (readerAfter SealingReader.read reader rooms count)) ∧
    ∃ reader, OpeningReader.start source key size = .ok reader ∧ ∀ rooms count,
      OpeningReader.IsSound size key source
        (returned OpeningReader.read reader rooms count)
        (logged OpeningReader.read OpeningReader.openedIn reader rooms count)
        (readerAfter OpeningReader.read reader rooms count) := by
  constructor
  · refine ⟨_, SealingReader.start_eq_initial source key_length size supply, ?_⟩
    exact SealingReader.isSound_readerAfter source key (ByteSupply.length_draw labelSize supply) size
  · refine ⟨_, OpeningReader.start_eq_initial source key_length size, ?_⟩
    exact OpeningReader.isSound_readerAfter source key size_pos

/-- A source that fails, says that it has ended and goes on, read byte by byte. -/
theorem readers_stay_sound_over_pauses :
    ∃ reader, (SealingReader.start
        ⟨[.data [1, 2, 3], .fault .wouldBlock, .nothing, .data [4, 5]], some 2⟩
        (List.replicate 32 0) 2 (ByteTape.mk [9, 8, 7, 6, 5, 4, 3])).1 = .ok reader ∧
      ∀ count,
        SealingReader.IsSound 2 (List.replicate 32 0) [9, 8, 7, 6, 5, 4, 3]
          ⟨[.data [1, 2, 3], .fault .wouldBlock, .nothing, .data [4, 5]], some 2⟩
          (returned SealingReader.read reader (fun _ => 1) count)
          (logged SealingReader.read SealingReader.sealedIn reader (fun _ => 1) count)
          (readerAfter SealingReader.read reader (fun _ => 1) count) := by
  rcases @readers_stay_sound ByteTape _ ⟨[9, 8, 7, 6, 5, 4, 3]⟩ (List.replicate 32 0) (by decide) 2
      (by decide) ⟨[.data [1, 2, 3], .fault .wouldBlock, .nothing, .data [4, 5]], some 2⟩ with
    ⟨⟨reader, started, isSound⟩, -⟩
  exact ⟨reader, started, isSound fun _ => 1⟩

end SealedStream

end KeyCustody

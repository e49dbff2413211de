import KeyCustody.Proofs.SealedStream.Log
import KeyCustody.Proofs.SealedStream.Refilling

/-!
# What a reader has done so far

Here a source may do anything, also say that it has ended and go on afterwards. What a reader has
returned, the chunks that it has logged and its state still belong together, and every read keeps it
so: the chunks are numbered in their order from zero on, and what was returned, with what waits to be
handed out, is what these chunks are worth.
-/

namespace KeyCustody

namespace SealedStream

section

variable {Reader Entry : Type} {read : Reader → Nat → Except StreamError ByteString × Reader}
  {log : Reader → Nat → List Entry} {relates : ByteString → List Entry → Reader → Prop}

/-- A relation between what was returned, what was logged and the reader is kept by every read. -/
def Maintains (read : Reader → Nat → Except StreamError ByteString × Reader)
    (log : Reader → Nat → List Entry) (relates : ByteString → List Entry → Reader → Prop) : Prop :=
  ∀ handed entries reader room, relates handed entries reader →
    relates (handed ++ bytesIn (read reader room).1) (entries ++ log reader room)
      (read reader room).2

theorem Maintains.run (maintains : Maintains read log relates) {handed : ByteString}
    {entries : List Entry} {reader : Reader} (starts : relates handed entries reader)
    (rooms : Nat → Nat) (count : Nat) :
    relates (handed ++ returned read reader rooms count)
      (entries ++ logged read log reader rooms count) (readerAfter read reader rooms count) := by
  induction count generalizing handed entries reader rooms with
  | zero =>
      rw [returned, answers, logged, List.flatMap_nil, List.append_nil, List.append_nil]
      exact starts
  | succ count ih =>
      have later := ih (maintains handed entries reader (rooms 0) starts)
        fun position => rooms (position + 1)
      rw [List.append_assoc, List.append_assoc] at later
      exact later

end

namespace SealingReader

/-- A reader with the chunks that it has sealed, the last one apart, and what it has returned. -/
structure HasSealed (key label : ByteString) (chunks : List ByteString × Option ByteString)
    (handed : ByteString) (reader : SealingReader) : Prop where
  key_eq : reader.key = key
  label_eq : reader.label = label
  count_lt : chunks.1.length < 2 ^ 32
  handed_eq : handed ++ reader.output.drop reader.position =
    label ++ (placedFrom key label 0 chunks).flatMap PlacedChunk.sealed
  number_eq : ∀ number, reader.number = some number →
    chunks.2 = none ∧ number.toNat = chunks.1.length

/-- What was returned and logged is what the reader has sealed. -/
def Recorded (key label handed : ByteString) (placed : List PlacedChunk) (reader : SealingReader) :
    Prop :=
  ∃ chunks, placed = placedFrom key label 0 chunks ∧ HasSealed key label chunks handed reader

section

variable {key label : ByteString} {number : UInt32} {chunks : List ByteString}

/-- The next chunk that a reader seals is numbered by the chunks before it. -/
theorem placedFrom_sealedNext (count_eq : number.toNat = chunks.length) (chunk : ByteString) :
    placedFrom key label 0 (chunks ++ [chunk], none) =
      placedFrom key label 0 (chunks, none) ++
        [⟨chunkNonce label number false, sealedChunk key label number false chunk⟩] := by
  rw [placedFrom_concat, placed_sealedChunk, Nat.zero_add, count_eq]
  rfl

theorem placedFrom_sealedLast (count_eq : number.toNat = chunks.length) (last : ByteString) :
    placedFrom key label 0 (chunks, some last) =
      placedFrom key label 0 (chunks, none) ++
        [⟨chunkNonce label number true, sealedChunk key label number true last⟩] := by
  rw [placedFrom_last, placed_sealedChunk, Nat.zero_add, count_eq]
  rfl

end

section

variable {key label handed : ByteString} {reader : SealingReader}
  {chunks : List ByteString × Option ByteString} {number : UInt32}

theorem HasSealed.handed_eq_of_spent (hasSealed : HasSealed key label chunks handed reader)
    (spent : reader.output.length ≤ reader.position) :
    handed = label ++ (placedFrom key label 0 chunks).flatMap PlacedChunk.sealed := by
  rw [← hasSealed.handed_eq, List.drop_eq_nil_of_le spent, List.append_nil]

theorem HasSealed.drained (hasSealed : HasSealed key label chunks handed reader) (room : Nat) :
    HasSealed key label chunks (handed ++ (drain reader.output reader.position room).1)
      { reader with position := (drain reader.output reader.position room).2 } where
  key_eq := hasSealed.key_eq
  label_eq := hasSealed.label_eq
  count_lt := hasSealed.count_lt
  handed_eq := by
    rw [← hasSealed.handed_eq, List.append_assoc, drain_append_drop]
  number_eq := hasSealed.number_eq

/-- A refill that seals a chunk adds it under the next number; any other leaves what was sealed. -/
theorem HasSealed.refill (hasSealed : HasSealed key label chunks handed reader)
    (number_eq : reader.number = some number) (spent : reader.output.length ≤ reader.position) :
    match reader.refill number with
    | (none, refilled) =>
      Recorded key label handed (placedFrom key label 0 chunks ++
        [⟨chunkNonce reader.label number refilled.number.isNone, refilled.output⟩]) refilled
    | (some _, refilled) => HasSealed key label chunks handed refilled := by
  have handed_eq := hasSealed.handed_eq_of_spent spent
  rcases hasSealed with ⟨rfl, rfl, count_lt, _, numbers_eq⟩
  rcases chunks with ⟨chunks, last?⟩
  rcases numbers_eq number number_eq with ⟨rfl, count_eq⟩
  have refilling := reader.refilling_refill number
  generalize reader.refill number = outcome at refilling ⊢
  rcases outcome with ⟨error?, refilled⟩
  dsimp only at refilling count_lt count_eq ⊢
  cases refilling with
  | failed => exact ⟨rfl, rfl, count_lt, (List.append_nil handed).trans handed_eq, numbers_eq⟩
  | exceeded => exact ⟨rfl, rfl, count_lt, (List.append_nil handed).trans handed_eq, numbers_eq⟩
  | @sealedNext received source _ _ notLast =>
      have next_lt := number_lt_of_ne notLast
      have next_count : (chunks ++ [(reader.plaintext ++ received).take reader.size]).length =
          chunks.length + 1 := List.length_append
      have placed_eq := @placedFrom_sealedNext reader.key reader.label number chunks count_eq
        ((reader.plaintext ++ received).take reader.size)
      refine ⟨_, placed_eq.symm, rfl, rfl, ?_, ?_, ?_⟩
      · dsimp only
        omega
      · rw [placed_eq, handed_eq]
        simp
      · rintro _ ⟨rfl⟩
        refine ⟨rfl, ?_⟩
        rw [toNat_add_one next_lt, count_eq, next_count]
  | @sealedLast received source =>
      have placed_eq := @placedFrom_sealedLast reader.key reader.label number chunks count_eq
        (reader.plaintext ++ received)
      refine ⟨_, placed_eq.symm, rfl, rfl, count_lt, ?_, ?_⟩
      · rw [placed_eq, handed_eq]
        simp
      · rintro _ ⟨⟩

theorem Recorded.drained {placed : List PlacedChunk}
    (recorded : Recorded key label handed placed reader) (room : Nat) :
    Recorded key label (handed ++ (drain reader.output reader.position room).1) placed
      { reader with position := (drain reader.output reader.position room).2 } := by
  rcases recorded with ⟨chunks, placed_eq, hasSealed⟩
  exact ⟨chunks, placed_eq, hasSealed.drained room⟩

end

theorem maintains_recorded (key label : ByteString) :
    Maintains SealingReader.read sealedIn (Recorded key label) := by
  rintro handed _ reader room ⟨chunks, rfl, hasSealed⟩
  have recorded : Recorded key label (handed ++ []) (placedFrom key label 0 chunks ++ []) reader := by
    rw [List.append_nil, List.append_nil]
    exact ⟨chunks, rfl, hasSealed⟩
  unfold sealedIn SealingReader.read
  by_cases noRoom : room = 0
  · rw [if_pos (Or.inl noRoom), if_pos noRoom]
    exact recorded
  · by_cases waiting : reader.position < reader.output.length
    · rw [if_pos (Or.inr waiting), if_neg noRoom, if_pos waiting, List.append_nil]
      exact ⟨chunks, rfl, hasSealed.drained room⟩
    · rw [if_neg (not_or.mpr ⟨noRoom, waiting⟩), if_neg noRoom, if_neg waiting]
      cases number_eq : reader.number with
      | none => exact recorded
      | some number =>
          have refilled := hasSealed.refill number_eq (Nat.le_of_not_lt waiting)
          dsimp only
          generalize reader.refill number = outcome at refilled ⊢
          rcases outcome with ⟨_ | error, next⟩
          · exact Recorded.drained refilled room
          · refine ⟨chunks, List.append_nil _, ?_⟩
            rw [bytesIn, List.append_nil]
            exact refilled

end SealingReader

namespace OpeningReader

/-- How far a reader is that has opened these chunks of the stream with this label. Before the label has
been read it may be any. -/
inductive ComesTo (label : ByteString) : List ByteString × Option ByteString → Progress → Prop where
  | label : ComesTo label ([], none) .label
  | chunks {chunks : List ByteString} {number : UInt32}
      (count_eq : number.toNat = chunks.length) : ComesTo label (chunks, none) (.chunks label number)
  | complete {chunks : List ByteString} {last : ByteString} :
      ComesTo label (chunks, some last) .complete
  | failed {chunks : List ByteString} : ComesTo label (chunks, none) .failed

/-- A reader with the chunks that it has opened and what it has returned. -/
structure HasOpened (key label : ByteString) (opened : List ByteString × Option ByteString)
    (handed : ByteString) (reader : OpeningReader) : Prop where
  key_eq : reader.key = key
  handed_eq : handed ++ reader.output.drop reader.position = payloadOf opened
  comesTo : ComesTo label opened reader.progress

/-- What was returned and logged is what the reader has opened. -/
def Recorded (key handed : ByteString) (placed : List PlacedChunk) (reader : OpeningReader) : Prop :=
  ∃ label opened, placed = placedFrom key label 0 opened ∧ HasOpened key label opened handed reader

variable {key label handed : ByteString} {reader : OpeningReader}
  {opened : List ByteString × Option ByteString} {number : UInt32} {placed : List PlacedChunk}

theorem HasOpened.handed_eq_of_spent (hasOpened : HasOpened key label opened handed reader)
    (spent : reader.output.length ≤ reader.position) : handed = payloadOf opened := by
  rw [← hasOpened.handed_eq, List.drop_eq_nil_of_le spent, List.append_nil]

theorem HasOpened.drained (hasOpened : HasOpened key label opened handed reader) (room : Nat) :
    HasOpened key label opened (handed ++ (drain reader.output reader.position room).1)
      { reader with position := (drain reader.output reader.position room).2 } where
  key_eq := hasOpened.key_eq
  handed_eq := by
    rw [← hasOpened.handed_eq, List.append_assoc, drain_append_drop]
  comesTo := hasOpened.comesTo

/-- A reader that fails has dropped nothing but what it had not opened. -/
theorem HasOpened.failedWith {chunks : List ByteString}
    (hasOpened : HasOpened key label (chunks, none) handed reader)
    (spent : reader.output.length ≤ reader.position) (source : Source) (ciphertext : ByteString) :
    HasOpened key label (chunks, none) handed (reader.failedWith source ciphertext) where
  key_eq := hasOpened.key_eq
  handed_eq := (List.append_nil handed).trans (hasOpened.handed_eq_of_spent spent)
  comesTo := .failed

theorem HasOpened.refillLabel (hasOpened : HasOpened key label opened handed reader)
    (progress_eq : reader.progress = .label) (spent : reader.output.length ≤ reader.position) :
    ∃ newLabel, opened = ([], none) ∧ HasOpened key newLabel opened handed reader.refillLabel.2 := by
  have comesTo := hasOpened.comesTo
  rw [progress_eq] at comesTo
  cases comesTo with
  | label =>
      have refilling := reader.labelRefilling_refillLabel
      generalize reader.refillLabel = outcome at refilling ⊢
      rcases outcome with ⟨error?, refilled⟩
      dsimp only at refilling ⊢
      cases refilling with
      | failed => exact ⟨label, rfl, hasOpened.failedWith spent _ _⟩
      | cutShort => exact ⟨label, rfl, hasOpened.failedWith spent _ _⟩
      | @labelled received source _ _ =>
          refine ⟨received, rfl, hasOpened.key_eq, ?_, .chunks rfl⟩
          rw [hasOpened.handed_eq_of_spent spent]
          rfl

/-- A refill that succeeds has opened the chunk it tried; any other leaves what was opened. -/
theorem HasOpened.refillChunk (hasOpened : HasOpened key label opened handed reader)
    {readLabel : ByteString} (progress_eq : reader.progress = .chunks readLabel number)
    (spent : reader.output.length ≤ reader.position) :
    match reader.refillChunk readLabel number with
    | (none, refilled) =>
      Recorded key handed (placedFrom key label 0 opened ++ [reader.attempt readLabel number]) refilled
    | (some _, refilled) => HasOpened key label opened handed refilled := by
  have comesTo := hasOpened.comesTo
  rw [progress_eq] at comesTo
  cases comesTo with
  | @chunks chunks _ count_eq =>
      have handed_eq := hasOpened.handed_eq_of_spent spent
      rcases hasOpened.key_eq with rfl
      have refilling := reader.chunkRefilling_refillChunk label number
      generalize reader.refillChunk label number = outcome at refilling ⊢
      rcases outcome with ⟨error?, refilled⟩
      dsimp only at refilling ⊢
      cases refilling with
      | failed => exact hasOpened.failedWith spent _ _
      | refusedNext => exact hasOpened.failedWith spent _ _
      | refusedLast => exact hasOpened.failedWith spent _ _
      | @openedNext received chunk source filled isLong notLast chunkOpened =>
          refine ⟨label, (chunks ++ [chunk], none), ?_, rfl, ?_, .chunks ?_⟩
          · rw [attempt_of_long filled isLong, placed_eq_of_openedChunk? chunkOpened,
              placedFrom_concat, Nat.zero_add, count_eq]
            rfl
          · rw [handed_eq]
            simp [payloadOf]
          · rw [toNat_add_one (number_lt_of_ne notLast), count_eq, List.length_append]
            rfl
      | @openedLast received last source filled isShort lastOpened =>
          refine ⟨label, (chunks, some last), ?_, rfl, ?_, .complete⟩
          · rw [attempt_of_short filled isShort, placed_eq_of_openedChunk? lastOpened,
              placedFrom_last, Nat.zero_add, count_eq]
            rfl
          · rw [handed_eq]
            simp [payloadOf]

/-- The refills of one read keep the record, and so does handing out what the last of them opened. -/
theorem Recorded.readLoop (recorded : Recorded key handed placed reader) (room fuel : Nat) :
    Recorded key (handed ++ bytesIn (reader.readLoop room fuel).1) (placed ++ openedLoop fuel reader)
      (reader.readLoop room fuel).2 := by
  fun_induction OpeningReader.readLoop room fuel reader generalizing placed with
  | case1 fuel reader waiting drainedBytes position drain_eq =>
      rcases recorded with ⟨label, opened, rfl, hasOpened⟩
      have hasDrained := hasOpened.drained room
      rw [drain_eq] at hasDrained
      rw [openedLoop.eq_def]
      simp only [if_pos waiting, List.append_nil]
      exact ⟨label, opened, rfl, hasDrained⟩
  | case2 fuel reader spent isComplete =>
      rw [openedLoop.eq_def]
      simp only [if_neg spent, isComplete, bytesIn, List.append_nil]
      exact recorded
  | case3 fuel reader spent hasFailed =>
      rw [openedLoop.eq_def]
      simp only [if_neg spent, hasFailed, bytesIn, List.append_nil]
      exact recorded
  | case4 reader spent notComplete notFailed =>
      rcases recorded with ⟨label, opened, rfl, key_eq, handed_eq, comesTo⟩
      have logs_nothing : openedLoop 0 reader = [] := by
        rw [openedLoop.eq_def]
        simp only [if_neg spent]
        cases reader.progress <;> rfl
      rw [logs_nothing, bytesIn, List.append_nil, List.append_nil]
      refine ⟨label, opened, rfl, key_eq, handed_eq, ?_⟩
      generalize reader.progress = progress at comesTo notComplete notFailed
      cases comesTo with
      | complete => exact absurd rfl notComplete
      | _ => exact .failed
  | case5 reader spent fuel isLabel error refilled happened =>
      rcases recorded with ⟨label, opened, rfl, hasOpened⟩
      rcases hasOpened.refillLabel isLabel (Nat.le_of_not_lt spent) with ⟨newLabel, rfl, hasLabel⟩
      rw [happened] at hasLabel
      rw [openedLoop.eq_def]
      simp only [if_neg spent, isLabel, happened, bytesIn, List.append_nil]
      exact ⟨newLabel, _, rfl, hasLabel⟩
  | case6 reader spent fuel isLabel refilled happened ih =>
      rcases recorded with ⟨label, opened, rfl, hasOpened⟩
      rcases hasOpened.refillLabel isLabel (Nat.le_of_not_lt spent) with ⟨newLabel, rfl, hasLabel⟩
      rw [happened] at hasLabel
      rw [openedLoop.eq_def]
      simp only [if_neg spent, isLabel, happened]
      exact ih ⟨newLabel, _, rfl, hasLabel⟩
  | case7 reader spent label number fuel isChunks error refilled happened =>
      rcases recorded with ⟨streamLabel, opened, rfl, hasOpened⟩
      have hasRefilled := hasOpened.refillChunk isChunks (Nat.le_of_not_lt spent)
      rw [happened] at hasRefilled
      rw [openedLoop.eq_def]
      simp only [if_neg spent, isChunks, happened, bytesIn, List.append_nil]
      exact ⟨streamLabel, opened, rfl, hasRefilled⟩
  | case8 reader spent label number fuel isChunks refilled happened ih =>
      rcases recorded with ⟨streamLabel, opened, rfl, hasOpened⟩
      have hasRefilled := hasOpened.refillChunk isChunks (Nat.le_of_not_lt spent)
      rw [happened] at hasRefilled
      have later := ih hasRefilled
      rw [List.append_assoc] at later
      rw [openedLoop.eq_def]
      simp only [if_neg spent, isChunks, happened]
      exact later

theorem maintains_recorded (key : ByteString) :
    Maintains OpeningReader.read openedIn (Recorded key) := by
  intro handed placed reader room recorded
  unfold openedIn OpeningReader.read
  by_cases noRoom : room = 0
  · rw [if_pos noRoom, if_pos noRoom, bytesIn, List.append_nil, List.append_nil]
    exact recorded
  · rw [if_neg noRoom, if_neg noRoom]
    exact recorded.readLoop room _

end OpeningReader

end SealedStream

end KeyCustody

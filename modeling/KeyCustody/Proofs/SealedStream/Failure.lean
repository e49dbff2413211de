import KeyCustody.Proofs.SealedStream.History
import Mathlib.Data.List.Forall2

/-!
# Failure is final

A read of an opening reader that fails leaves it failed and with nothing to hand out, and such a reader
does not change any more: it does not even look at its source, so nothing that the source would still
deliver can bring it back or let it report an end. What it handed out before had been found authentic.
-/

namespace KeyCustody

namespace SealedStream

/-- The sealed bytes are authentic at their place and hold this chunk. -/
def PlacedChunk.OpensTo (key : ByteString) (placed : PlacedChunk) (chunk : ByteString) : Prop :=
  Gcm.decrypt? key placed.nonce placed.sealed = some chunk

/-- The chunks that opening got to, the last one included. -/
def chunksOf (opened : List ByteString × Option ByteString) : List ByteString :=
  opened.1 ++ opened.2.toList

section

variable {key label : ByteString} {number : Nat}

theorem flatten_chunksOf (opened : List ByteString × Option ByteString) :
    (chunksOf opened).flatten = payloadOf opened := by
  rcases opened with ⟨chunks, _ | last⟩ <;> simp [chunksOf, payloadOf]

theorem forall₂_placedChunks (chunks : List ByteString) :
    List.Forall₂ (PlacedChunk.OpensTo key) (placedChunks key label number chunks) chunks := by
  induction chunks generalizing number with
  | nil => exact .nil
  | cons chunk rest ih => exact .cons (decrypt?_placedChunk 0 chunk) ih

/-- Chunks at their places open to what they were sealed from. -/
theorem forall₂_placedFrom (opened : List ByteString × Option ByteString) :
    List.Forall₂ (PlacedChunk.OpensTo key) (placedFrom key label number opened)
      (chunksOf opened) := by
  rcases opened with ⟨chunks, _ | last⟩
  · exact List.rel_append (forall₂_placedChunks chunks) .nil
  · exact List.rel_append (forall₂_placedChunks chunks)
      (.cons (decrypt?_placedChunk 1 last) .nil)

end

namespace OpeningReader

/-- The reader does not look at its source: with any other in its place every read gives the same and
leaves that source as it is. -/
def IgnoresSource (reader : OpeningReader) : Prop :=
  ∀ source room, OpeningReader.read { reader with source } room =
    ((reader.read room).1, { (reader.read room).2 with source })

/-- The opened bytes that wait to be handed out. -/
def pending (reader : OpeningReader) : ByteString := reader.output.drop reader.position

variable {reader : OpeningReader} {error : StreamError}

theorem hasFailed_of_read {room : Nat} (fails : (reader.read room).1 = .error error) :
    (reader.read room).2.HasFailed := by
  unfold OpeningReader.read at fails ⊢
  by_cases noRoom : room = 0
  · rw [if_pos noRoom] at fails
    cases fails
  · rw [if_neg noRoom] at fails ⊢
    exact hasFailed_of_readLoop fails

/-- A read of a failed reader fails again if it has room, and leaves the reader as it is. -/
theorem HasFailed.read (hasFailed : reader.HasFailed) (room : Nat) :
    reader.read room = (if room = 0 then .ok [] else .error .notAuthentic, reader) := by
  unfold OpeningReader.read
  by_cases noRoom : room = 0
  · rw [if_pos noRoom, if_pos noRoom]
  · rw [if_neg noRoom, if_neg noRoom, readLoop.eq_def]
    simp only [if_neg (Nat.not_lt_of_le hasFailed.spent), hasFailed.progress_eq]

theorem HasFailed.ignoresSource (hasFailed : reader.HasFailed) : reader.IgnoresSource := by
  intro source room
  have stillFailed : HasFailed { reader with source } := ⟨hasFailed.progress_eq, hasFailed.spent⟩
  rw [hasFailed.read, stillFailed.read]

section

variable {rooms : Nat → Nat} {position later : Nat}

/-- After a read that failed the reader stays failed, and nothing more is returned. -/
theorem hasFailed_of_answerAt (fails : answerAt OpeningReader.read reader rooms position = .error error)
    (isLater : position < later) :
    (readerAfter OpeningReader.read reader rooms later).HasFailed ∧
      returned OpeningReader.read reader rooms later =
        returned OpeningReader.read reader rooms position := by
  induction later, isLater using Nat.le_induction with
  | base =>
      rw [readerAfter_succ, returned_concat, fails]
      exact ⟨hasFailed_of_read fails, List.append_nil _⟩
  | succ later _ ih =>
      rcases ih with ⟨hasFailed, returned_eq⟩
      rw [readerAfter_succ, returned_concat, answerAt, hasFailed.read, returned_eq]
      refine ⟨hasFailed, ?_⟩
      by_cases noRoom : rooms later = 0
      · rw [if_pos noRoom]
        exact List.append_nil _
      · rw [if_neg noRoom]
        exact List.append_nil _

theorem HasFailed.answerAt_eq
    (hasFailed : (readerAfter OpeningReader.read reader rooms later).HasFailed)
    (room_pos : 0 < rooms later) :
    answerAt OpeningReader.read reader rooms later = .error .notAuthentic := by
  rw [answerAt, hasFailed.read, if_neg (Nat.ne_of_gt room_pos)]

end

/-- All that has been opened was found authentic, chunk by chunk, and is what was returned and what
waits to be handed out. -/
theorem Recorded.opensTo {key handed : ByteString} {placed : List PlacedChunk}
    (recorded : Recorded key handed placed reader) :
    ∃ label opened, placed = placedFrom key label 0 opened ∧
      List.Forall₂ (PlacedChunk.OpensTo key) placed (chunksOf opened) ∧
      handed ++ reader.pending = (chunksOf opened).flatten := by
  rcases recorded with ⟨label, opened, rfl, hasOpened⟩
  refine ⟨label, opened, rfl, forall₂_placedFrom opened, ?_⟩
  rw [flatten_chunksOf]
  exact hasOpened.handed_eq

theorem recorded_initial (source : Source) (key : ByteString) (size : Nat) :
    Recorded key [] [] (initial source key size) :=
  ⟨[], ([], none), rfl, rfl, rfl, .label⟩

end OpeningReader

/-- Over any source, once a read has failed every later read with room fails as for a chunk that is not
authentic, nothing more is returned and the source is left alone. At any time the bytes that were
returned, with those that wait to be handed out, are the chunks that have been opened and found
authentic, each as a whole and at its place. -/
theorem failure_is_final {key : ByteString} (key_length : key.length = keySize) (source : Source)
    (size : Nat) :
    ∃ reader, OpeningReader.start source key size = .ok reader ∧ ∀ rooms : Nat → Nat,
      (∀ position error, answerAt OpeningReader.read reader rooms position = .error error →
        ∀ later, position < later →
          (0 < rooms later →
            answerAt OpeningReader.read reader rooms later = .error .notAuthentic) ∧
          returned OpeningReader.read reader rooms later =
            returned OpeningReader.read reader rooms position ∧
          (readerAfter OpeningReader.read reader rooms later).IgnoresSource) ∧
      ∀ count, ∃ label opened,
        logged OpeningReader.read OpeningReader.openedIn reader rooms count =
          placedFrom key label 0 opened ∧
        List.Forall₂ (PlacedChunk.OpensTo key)
          (logged OpeningReader.read OpeningReader.openedIn reader rooms count)
          (chunksOf opened) ∧
        returned OpeningReader.read reader rooms count ++
            (readerAfter OpeningReader.read reader rooms count).pending =
          (chunksOf opened).flatten := by
  refine ⟨_, OpeningReader.start_eq_initial source key_length size, ?_⟩
  intro rooms
  constructor
  · intro position error fails later isLater
    rcases OpeningReader.hasFailed_of_answerAt fails isLater with ⟨hasFailed, returned_eq⟩
    exact ⟨hasFailed.answerAt_eq, returned_eq, hasFailed.ignoresSource⟩
  · intro count
    have recorded := (OpeningReader.maintains_recorded key).run
      (OpeningReader.recorded_initial source key size) rooms count
    exact recorded.opensTo

/-- The rest of the label and an authentic chunk come after a failure, and no read gets to them. -/
theorem failure_is_final_within_label :
    ∃ reader, OpeningReader.start
        ⟨[.data [9, 8, 7], .fault .wouldBlock, .data [6, 5, 4, 3],
          .data (wireChunk (List.replicate 32 0) [9, 8, 7, 6, 5, 4, 3] 0 1 [1])], none⟩
        (List.replicate 32 0) 2 = .ok reader ∧
      answerAt OpeningReader.read reader (fun _ => 1) 0 = .error (.source .wouldBlock) ∧
      ∀ later, 0 < later →
        answerAt OpeningReader.read reader (fun _ => 1) later = .error .notAuthentic := by
  generalize wireChunk (List.replicate 32 0) [9, 8, 7, 6, 5, 4, 3] 0 1 [1] = rest
  have filled : Source.fill
      ⟨[.data [9, 8, 7], .fault .wouldBlock, .data [6, 5, 4, 3], .data rest], none⟩ labelSize =
        ⟨[9, 8, 7], ⟨[.data [6, 5, 4, 3], .data rest], none⟩, some .wouldBlock⟩ := by
    rw [Source.fill, Source.fillLoop, if_neg (by decide)]
    change Source.fillLoop ⟨[.data [], .fault .wouldBlock, .data [6, 5, 4, 3], .data rest], none⟩ 4
      [[9, 8, 7]] = _
    rw [Source.fillLoop, if_neg (by decide)]
    rfl
  rcases @failure_is_final (List.replicate 32 0) (by decide)
      ⟨[.data [9, 8, 7], .fault .wouldBlock, .data [6, 5, 4, 3], .data rest], none⟩ 2 with
    ⟨reader, started, reads⟩
  have fails : answerAt OpeningReader.read reader (fun _ => 1) 0 = .error (.source .wouldBlock) := by
    cases started
    unfold answerAt OpeningReader.read
    simp only [readerAfter, OpeningReader.readLoop, OpeningReader.refillLabel, filled,
      List.length_nil, Nat.lt_irrefl, if_false, one_ne_zero]
  refine ⟨reader, started, fails, ?_⟩
  intro later isLater
  exact ((reads fun _ => 1).1 0 _ fails later isLater).1 Nat.one_pos

end SealedStream

end KeyCustody

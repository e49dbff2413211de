import KeyCustody.Proofs.SealedStream.Log

/-!
# Tampering with a stream takes a forged chunk

Bytes other than a sealed stream, read under the same key, are accepted only if a chunk of them opens
that was never sealed with this nonce: a forgery against the cipher. Flipping, cutting, reordering,
repeating and splicing chunks of the stream forges none, so reading then fails and has returned nothing
but the start of the payload.
-/

namespace KeyCustody

namespace SealedStream

theorem Outlook.Step.of_stop {outlook next : Outlook} {room : Nat}
    {answer : Except StreamError ByteString} (step : Step room outlook answer next)
    (room_pos : 0 < room) (faultless : outlook.faults = [])
    (stops : answer = .ok [] ∨ ∃ error, answer = .error error) :
    answer = outlook.finalAnswer ∧ outlook.bytes = [] := by
  cases step with
  | idle noRoom => omega
  | handed nonempty => simp [nonempty] at stops
  | passedOn => cases faultless
  | ended => exact ⟨rfl, rfl⟩

namespace OpeningReader

/-- Reading stops with the answer that the outlook ends with, and has returned all of its bytes. -/
theorem HasOutlook.of_stops {reader : OpeningReader} {outlook : Outlook}
    (hasOutlook : reader.HasOutlook outlook) {rooms : Nat → Nat} {stop : Nat}
    (stops : Stops OpeningReader.read reader rooms stop) :
    answerAt OpeningReader.read reader rooms stop = outlook.finalAnswer ∧
      returned OpeningReader.read reader rooms stop = outlook.bytes := by
  rcases stops with ⟨room_pos, stops⟩
  rcases keepsTo_read.exists_left hasOutlook rooms stop with
    ⟨left, hasLeft, failure_eq, bytes_eq, _⟩
  rcases keepsTo_read _ left (rooms stop) hasLeft with ⟨next, step, _⟩
  have faultless : left.faults = [] := by
    rcases hasLeft with ⟨_, rest, failure, _, rfl⟩
    rfl
  rcases step.of_stop room_pos faultless stops with ⟨answer_eq, nothingLeft⟩
  constructor
  · rw [answerAt, answer_eq, Outlook.finalAnswer, Outlook.finalAnswer, failure_eq]
  · rw [bytes_eq, nothingLeft, List.append_nil]

/-- Enough reads with room get to where reading stops. -/
theorem HasOutlook.exists_stop {reader : OpeningReader} {outlook : Outlook}
    (hasOutlook : reader.HasOutlook outlook) {rooms : Nat → Nat} {count : Nat}
    (enough : outlook.bytes.length + outlook.faults.length <
      Nat.count (fun position => 0 < rooms position) count) :
    ∃ stop < count, Stops OpeningReader.read reader rooms stop := by
  rcases keepsTo_read.exists_finalAnswer hasOutlook enough with
    ⟨stop, stop_lt, room_pos, answer_eq⟩
  refine ⟨stop, stop_lt, room_pos, ?_⟩
  rw [answer_eq, Outlook.finalAnswer]
  cases outlook.failure with
  | none => exact Or.inl rfl
  | some error => exact Or.inr ⟨error, rfl⟩

end OpeningReader

/-- Bytes of which only chunks of one stream open, each at its place, are this stream, or opening them
fails after the start of its payload. -/
theorem openStream_of_placed_subset {key label sealed : ByteString} {size : Nat}
    {chunks : List ByteString} {last : ByteString} (label_length : label.length = labelSize)
    (count_lt : chunks.length < 2 ^ 32)
    (placed_subset :
      ∀ placed ∈ placedFrom key (sealed.take labelSize) 0 (openStream key size sealed),
        placed ∈ placedFrom key label 0 (chunks, some last)) :
    sealed = wire key label chunks last ∨
      failureOf (openStream key size sealed) = some .notAuthentic ∧
        payloadOf (openStream key size sealed) <+: chunks.flatten ++ last := by
  by_cases isShort : sealed.length < labelSize
  · right
    rw [openStream, if_pos isShort]
    exact ⟨rfl, List.nil_prefix⟩
  · have opened_lt := length_openStream_lt key size sealed
    rw [openStream, if_neg isShort] at placed_subset opened_lt ⊢
    have sealedLabel_length : (sealed.take labelSize).length = labelSize :=
      List.length_take_of_le (Nat.le_of_not_lt isShort)
    rcases opened_of_placed_subset label_length sealedLabel_length count_lt opened_lt
      placed_subset with ⟨isPrefix, sameLast⟩
    generalize opened_eq : openFrom key (sealed.take labelSize) size 0 (sealed.drop labelSize) =
      opened at isPrefix sameLast
    rcases opened with ⟨openedChunks, _ | openedLast⟩
    · right
      rcases isPrefix with ⟨rest, rfl⟩
      refine ⟨rfl, rest.flatten ++ last, ?_⟩
      simp [payloadOf]
    · left
      rcases sameLast openedLast rfl with ⟨label_eq, rfl, rfl⟩
      rcases eq_wireFrom_of_openFrom opened_eq with ⟨body_eq, _⟩
      calc
        sealed = sealed.take labelSize ++ sealed.drop labelSize :=
          (List.take_append_drop labelSize sealed).symm
        _ = wire key label openedChunks openedLast := by
          rw [wire, body_eq, label_eq]
          rfl

/-- Let a payload be sealed to the end, and other bytes be read under the same key until reading stops,
both in whatever parts and with whatever rooms. If reading reaches the end, it has opened a chunk at a
place where no such chunk was sealed. If it has opened only chunks that were sealed, each at its place,
then it stops with an error and has returned the start of the payload. -/
theorem tampering_takes_forgery {Supply : Type} [ByteSupply Supply] (supply : Supply)
    {key : ByteString} (key_length : key.length = keySize) {size : Nat} (size_pos : 0 < size)
    {payload tampered : Source} (flowing : payload.Flowing)
    (length_le : payload.bytes.length ≤ 2 ^ 32 * size) (tamperedFlowing : tampered.Flowing)
    (faultless : tampered.faults = []) :
    ∃ sealing opening, (SealingReader.start payload key size supply).1 = .ok sealing ∧
      OpeningReader.start tampered key size = .ok opening ∧
      (∃ enough, ∀ rooms count, enough < Nat.count (fun position => 0 < rooms position) count →
        ∃ stop < count, Stops OpeningReader.read opening rooms stop) ∧
      ∀ sealingRooms finish, 0 < sealingRooms finish →
        answerAt SealingReader.read sealing sealingRooms finish = .ok [] →
        tampered.bytes ≠ returned SealingReader.read sealing sealingRooms finish →
        ∀ rooms stop, Stops OpeningReader.read opening rooms stop →
          let wasSealed := logged SealingReader.read SealingReader.sealedIn sealing sealingRooms finish
          let wasOpened := logged OpeningReader.read OpeningReader.openedIn opening rooms (stop + 1)
          (answerAt OpeningReader.read opening rooms stop = .ok [] →
            ∃ placed ∈ wasOpened, placed ∉ wasSealed ∧
              ∃ chunk, Gcm.decrypt? key placed.nonce placed.sealed = some chunk) ∧
          ((∀ placed ∈ wasOpened, placed ∈ wasSealed) →
            answerAt OpeningReader.read opening rooms stop = .error .notAuthentic ∧
              returned OpeningReader.read opening rooms stop <+: payload.bytes) := by
  rcases SealingReader.exists_start supply key_length size_pos flowing length_le with
    ⟨sealing, chunks, last, sealingStarted, isCut, count_lt, sealingOutlook, sealingAwaits⟩
  rcases OpeningReader.exists_start key_length size_pos tamperedFlowing faultless with
    ⟨opening, openingStarted, openingOutlook, openingAwaits⟩
  refine ⟨sealing, opening, sealingStarted, openingStarted,
    ⟨_, fun rooms count enough => openingOutlook.exists_stop enough⟩, ?_⟩
  intro sealingRooms finish sealingRoom_pos ended differs rooms stop stops wasSealed wasOpened
  have sealed_eq := sealingAwaits.logged_eq sealingRoom_pos ended
  have opened_eq := openingAwaits.logged_eq stops
  have yields := SealingReader.keepsTo_read.yields sealingOutlook
  rw [((yields.ended_iff sealingRooms finish sealingRoom_pos).mp ended).1] at differs
  rcases openingOutlook.of_stops stops with ⟨answer_eq, returned_eq⟩
  have fails : (∀ placed ∈ wasOpened, placed ∈ wasSealed) →
      failureOf (openStream key size tampered.bytes) = some .notAuthentic ∧
        payloadOf (openStream key size tampered.bytes) <+: chunks.flatten ++ last := by
    intro placed_subset
    simp only [wasOpened, wasSealed, sealed_eq, opened_eq] at placed_subset
    rcases openStream_of_placed_subset (ByteSupply.length_draw _ _) count_lt placed_subset with
      same | fails
    · exact absurd same differs
    · exact fails
  constructor
  · intro reachesEnd
    by_contra noForgery
    have placed_subset : ∀ placed ∈ wasOpened, placed ∈ wasSealed := by
      intro placed placed_mem
      by_contra notSealed
      have opens : ∃ chunk, Gcm.decrypt? key placed.nonce placed.sealed = some chunk := by
        simp only [wasOpened, opened_eq] at placed_mem
        exact exists_decrypt?_of_mem_placedFrom placed_mem
      exact noForgery ⟨placed, placed_mem, notSealed, opens⟩
    rw [answer_eq, Outlook.finalAnswer, (fails placed_subset).1] at reachesEnd
    cases reachesEnd
  · intro placed_subset
    rcases fails placed_subset with ⟨failure_eq, isPrefix⟩
    rw [answer_eq, returned_eq, Outlook.finalAnswer, failure_eq, isCut.payload_eq]
    exact ⟨rfl, isPrefix⟩

/-- The last of three chunks is cut off. The first one opens, the second one not as a last chunk. -/
theorem tampering_takes_forgery_cut_short :
    let key : ByteString := List.replicate 32 0
    let label : ByteString := [9, 8, 7, 6, 5, 4, 3]
    let payload : Source := ⟨[.data [1], .fault .interrupted, .data [2, 3]], some 1⟩
    let cut : Source := ⟨[.data label, .data (wireChunks key label 0 [[1], [2]])], some 5⟩
    ∃ sealing opening, (SealingReader.start payload key 1 (ByteTape.mk label)).1 = .ok sealing ∧
      OpeningReader.start cut key 1 = .ok opening ∧
      (∃ stop, Stops OpeningReader.read opening (fun _ => 1) stop) ∧
      ∀ rooms stop, Stops OpeningReader.read opening rooms stop →
        logged OpeningReader.read OpeningReader.openedIn opening rooms (stop + 1) =
            [placedChunk key label 0 0 [1]] ∧
          answerAt OpeningReader.read opening rooms stop = .error .notAuthentic ∧
          returned OpeningReader.read opening rooms stop <+: payload.bytes := by
  intro key label payload cut
  have flowing : payload.Flowing := ⟨by decide, by decide⟩
  have cutFlowing : cut.Flowing := ⟨by simp [cut], by decide⟩
  have key_length : key.length = keySize := by decide
  have label_length : label.length = labelSize := by decide
  have masks_ne : (Gcm.counterBlock (Aes256.schedule key)
        (label ++ ByteString.bigEndian 4 1 ++ [0]) 1).toBytes ≠
      (Gcm.counterBlock (Aes256.schedule key)
        (label ++ ByteString.bigEndian 4 1 ++ [1]) 1).toBytes := by
    decide +kernel
  have cut_eq : cut.bytes = label ++ wireChunks key label 0 [[1], [2]] := by
    simp [cut, Source.bytes, Source.bytesOf]
  have opened_eq : openStream key 1 cut.bytes = ([[1]], none) := by
    rw [cut_eq, openStream_append label_length]
    exact @openFrom_wireChunks_concat key label 1 0 [[1]] [2] (by simp) (by simp) (by decide)
      (Gcm.decrypt?_encrypt_of_mask_ne masks_ne [2])
  rcases @tampering_takes_forgery ByteTape _ ⟨label⟩ key key_length 1 (by decide) payload cut
      flowing (by decide) cutFlowing rfl with
    ⟨sealing, opening, sealingStarted, openingStarted, ⟨enough, stops⟩, breaks⟩
  rcases OpeningReader.exists_start key_length (by decide : 0 < 1) cutFlowing rfl with
    ⟨same, sameStarted, _, openingAwaits⟩
  rw [openingStarted] at sameStarted
  cases sameStarted
  have logged_eq : ∀ rooms stop, Stops OpeningReader.read opening rooms stop →
      logged OpeningReader.read OpeningReader.openedIn opening rooms (stop + 1) =
        [placedChunk key label 0 0 [1]] := by
    intro rooms stop stops
    rw [openingAwaits.logged_eq stops, opened_eq, cut_eq, List.take_left' label_length]
    rfl
  rcases @SealingReader.exists_start ByteTape _ ⟨label⟩ key key_length 1 (by decide) payload flowing
      (by decide) with ⟨same, chunks, last, sameStarted, isCut, _, sealingOutlook, sealingAwaits⟩
  rw [sealingStarted] at sameStarted
  cases sameStarted
  rcases isCut.long (by decide) (by decide) with ⟨afterFirst, rfl, firstRestIsCut⟩
  rcases firstRestIsCut.long (by decide) (by decide) with ⟨afterSecond, rfl, secondRestIsCut⟩
  rcases secondRestIsCut.short (by decide) with ⟨rfl, rfl⟩
  have yields := SealingReader.keepsTo_read.yields sealingOutlook
  rcases yields.ends (fun _ => 1) 100 (by simp [wire, wireFrom, wireChunks, Gcm.tagSize]; decide)
    with ⟨finish, _, room_pos, ended⟩
  have differs : cut.bytes ≠ returned SealingReader.read sealing (fun _ => 1) finish := by
    rw [((yields.ended_iff _ finish room_pos).mp ended).1, cut_eq]
    intro same
    have length_eq := congrArg List.length same
    simp [wire, wireFrom, wireChunks, label_length, ByteSupply.length_draw, Gcm.tagSize] at length_eq
    omega
  refine ⟨sealing, opening, sealingStarted, openingStarted, ?_, ?_⟩
  · rcases stops (fun _ => 1) (enough + 1) (by simp) with ⟨stop, _, stops⟩
    exact ⟨stop, stops⟩
  · intro rooms stop stops
    refine ⟨logged_eq rooms stop stops, ?_⟩
    apply (breaks (fun _ => 1) finish room_pos ended differs rooms stop stops).2
    rw [logged_eq rooms stop stops, sealingAwaits.logged_eq room_pos ended]
    intro placed placed_mem
    cases List.mem_singleton.mp placed_mem
    exact List.mem_cons_self

end SealedStream

end KeyCustody

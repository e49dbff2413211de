import KeyCustody.Proofs.SealedStream.Opening
import KeyCustody.Proofs.SealedStream.PlacedChunk
import KeyCustody.Proofs.SealedStream.Sealing

/-!
# The chunks that readers seal and open

A log lists what a reader does with the cipher: the chunks that it seals, or those that it opens, each
with its nonce. What a reader has still to log depends on its buffer and on the bytes that its source
still has, and every read logs the next bit of it (`Logs`). A reader that has come to its end or failed
has nothing more to log.
-/

namespace KeyCustody

namespace SealedStream

section

variable {Reader Entry : Type} (read : Reader → Nat → Except StreamError ByteString × Reader)
  (log : Reader → Nat → List Entry)

/-- What the first `count` reads with the given rooms log, one after the other. -/
def logged (reader : Reader) (rooms : Nat → Nat) : Nat → List Entry
  | 0 => []
  | count + 1 =>
    log reader (rooms 0) ++
      logged (read reader (rooms 0)).2 (fun position => rooms (position + 1)) count

/-- Every read of a reader logs the next bit of what is still to be logged. -/
def Logs (awaits : Reader → List Entry → Prop) : Prop :=
  ∀ reader entries room, awaits reader entries →
    ∃ later, entries = log reader room ++ later ∧ awaits (read reader room).2 later

/-- A read with room that reports the end or fails. -/
def Stops (reader : Reader) (rooms : Nat → Nat) (position : Nat) : Prop :=
  0 < rooms position ∧
    (answerAt read reader rooms position = .ok [] ∨
      ∃ error, answerAt read reader rooms position = .error error)

variable {read log}

theorem Logs.exists_later {awaits : Reader → List Entry → Prop} (logs : Logs read log awaits)
    {reader : Reader} {entries : List Entry} (starts : awaits reader entries) (rooms : Nat → Nat)
    (count : Nat) :
    ∃ later, entries = logged read log reader rooms count ++ later ∧
      awaits (readerAfter read reader rooms count) later := by
  induction count generalizing reader entries rooms with
  | zero => exact ⟨entries, rfl, starts⟩
  | succ count ih =>
      rcases logs reader entries (rooms 0) starts with ⟨next, rfl, nextStarts⟩
      rcases ih nextStarts (fun position => rooms (position + 1)) with ⟨later, rfl, hasLater⟩
      exact ⟨later, (List.append_assoc _ _ _).symm, hasLater⟩

end

namespace SealingReader

/-- The chunks that one read seals: one if the reader has to refill and nothing stops it. The chunk
stands in the output, and after the last there is no next number. -/
def sealedIn (reader : SealingReader) (room : Nat) : List PlacedChunk :=
  if room = 0 ∨ reader.position < reader.output.length then []
  else
    match reader.number with
    | none => []
    | some number =>
      match reader.refill number with
      | (some _, _) => []
      | (none, refilled) =>
        [⟨chunkNonce reader.label number refilled.number.isNone, refilled.output⟩]

/-- The chunks that a reader with these contents has still to seal. -/
inductive Expects (key label : ByteString) (size : Nat) :
    Option UInt32 → ByteString → Source → List PlacedChunk → Prop where
  | sealing {number : UInt32} {plaintext : ByteString} {source : Source}
      {chunks : List ByteString} {last : ByteString} (flowing : source.Flowing)
      (isCut : IsCut size (plaintext ++ source.bytes) chunks last)
      (number_lt : number.toNat + chunks.length < 2 ^ 32) :
      Expects key label size (some number) plaintext source
        (placedFrom key label number.toNat (chunks, some last))
  | complete {plaintext : ByteString} {source : Source} :
      Expects key label size none plaintext source []

def Awaits (reader : SealingReader) (placed : List PlacedChunk) : Prop :=
  0 < reader.size ∧
    Expects reader.key reader.label reader.size reader.number reader.plaintext reader.source placed

theorem placed_sealedChunk (key label : ByteString) (number : UInt32) (isLast : Bool)
    (chunk : ByteString) :
    (⟨chunkNonce label number isLast, sealedChunk key label number isLast chunk⟩ : PlacedChunk) =
      placedChunk key label number.toNat (if isLast then 1 else 0) chunk := by
  rw [chunkNonce_eq, sealedChunk_eq, placedChunk]

variable {reader : SealingReader} {placed : List PlacedChunk}

/-- A refill seals the next chunk, or it is stopped and leaves all chunks to be sealed. -/
theorem Awaits.refill {number : UInt32} (awaits : reader.Awaits placed)
    (number_eq : reader.number = some number) :
    match reader.refill number with
    | (none, refilled) =>
      ∃ later, placed =
          ⟨chunkNonce reader.label number refilled.number.isNone, refilled.output⟩ :: later ∧
        refilled.Awaits later
    | (some _, refilled) => refilled.Awaits placed := by
  rcases awaits with ⟨size_pos, expects⟩
  rw [number_eq] at expects
  cases expects with
  | @sealing _ _ _ chunks last flowing isCut number_lt =>
      have filled := filled_filling flowing
      have refilling := reader.refilling_refill number
      generalize reader.refill number = outcome at refilling ⊢
      rcases outcome with ⟨error?, refilled⟩
      dsimp only at refilling
      rw [filled.bytes_eq, ← List.append_assoc] at isCut
      cases refilling with
      | failed happened =>
          rw [happened] at filled isCut
          refine ⟨size_pos, ?_⟩
          dsimp only
          rw [number_eq]
          exact .sealing filled.flowing isCut number_lt
      | exceeded happened =>
          rw [happened] at filled isCut
          refine ⟨size_pos, ?_⟩
          dsimp only
          rw [number_eq]
          exact .sealing filled.flowing isCut number_lt
      | @sealedNext received source happened isLong notLast =>
          rw [happened] at filled isCut
          have wholeIsLong :
              reader.size < (reader.plaintext ++ received ++ source.bytes).length := by
            rw [List.length_append]
            omega
          rcases isCut.long size_pos wholeIsLong with ⟨later, rfl, laterIsCut⟩
          rw [List.drop_append_of_le_length (Nat.le_of_lt isLong)] at laterIsCut
          rw [List.length_cons] at number_lt
          have next_eq := toNat_add_one (number_lt_of_ne notLast)
          refine ⟨placedFrom reader.key reader.label (number + 1).toNat (later, some last), ?_,
            size_pos, .sealing filled.flowing laterIsCut ?_⟩
          · dsimp only
            rw [Option.isNone_some, placed_sealedChunk, next_eq,
              List.take_append_of_le_length (Nat.le_of_lt isLong)]
            exact placedFrom_cons _ (later, some last)
          · rw [next_eq]
            omega
      | sealedLast happened isShort =>
          rw [happened] at filled isCut
          dsimp only at isCut
          rw [(filled.exhausted_of_short isShort).1, List.append_nil] at isCut
          rcases isCut.short isShort with ⟨rfl, rfl⟩
          refine ⟨[], ?_, size_pos, .complete⟩
          dsimp only
          rw [Option.isNone_none, placed_sealedChunk]
          rfl

theorem logs_sealedIn : Logs SealingReader.read sealedIn Awaits := by
  intro reader placed room awaits
  unfold sealedIn SealingReader.read
  by_cases noRoom : room = 0
  · rw [if_pos (Or.inl noRoom), if_pos noRoom]
    exact ⟨placed, rfl, awaits⟩
  · by_cases waiting : reader.position < reader.output.length
    · rw [if_pos (Or.inr waiting), if_neg noRoom, if_pos waiting]
      exact ⟨placed, rfl, awaits⟩
    · rw [if_neg (not_or.mpr ⟨noRoom, waiting⟩), if_neg noRoom, if_neg waiting]
      cases number_eq : reader.number with
      | none => exact ⟨placed, rfl, awaits⟩
      | some number =>
          have refilled := awaits.refill number_eq
          dsimp only
          generalize reader.refill number = outcome at refilled ⊢
          rcases outcome with ⟨_ | error, next⟩
          · rcases refilled with ⟨later, rfl, hasLater⟩
            exact ⟨later, rfl, hasLater⟩
          · exact ⟨placed, rfl, refilled⟩

theorem waits_of_refill {number : UInt32} {refilled : SealingReader}
    (happened : reader.refill number = (none, refilled)) :
    refilled.position < refilled.output.length := by
  have refilling := reader.refilling_refill number
  rw [happened] at refilling
  cases refilling with
  | sealedNext => exact sealedChunk_waits
  | sealedLast => exact sealedChunk_waits

/-- Only a reader that has sealed its last chunk reports the end. -/
theorem number_eq_none_of_read {room : Nat} (room_pos : 0 < room)
    (ended : (reader.read room).1 = .ok []) : reader.number = none := by
  unfold SealingReader.read at ended
  rw [if_neg (Nat.ne_of_gt room_pos)] at ended
  by_cases waiting : reader.position < reader.output.length
  · rw [if_pos waiting] at ended
    exact absurd (Except.ok.inj ended) (drain_ne_nil waiting room_pos)
  · rw [if_neg waiting] at ended
    cases number_eq : reader.number with
    | none => rfl
    | some number =>
        rw [number_eq] at ended
        dsimp only at ended
        split at ended
        · cases ended
        · rename_i refilled happened
          exact absurd (Except.ok.inj ended) (drain_ne_nil (waits_of_refill happened) room_pos)

/-- By the time that reading reaches the end all chunks have been sealed. -/
theorem Awaits.logged_eq (awaits : reader.Awaits placed) {rooms : Nat → Nat} {finish : Nat}
    (room_pos : 0 < rooms finish)
    (ended : answerAt SealingReader.read reader rooms finish = .ok []) :
    logged SealingReader.read sealedIn reader rooms finish = placed := by
  rcases logs_sealedIn.exists_later awaits rooms finish with ⟨later, rfl, _, expects⟩
  rw [number_eq_none_of_read room_pos ended] at expects
  cases expects with
  | complete => exact (List.append_nil _).symm

/-- A reader that has just been started has the whole format of the cut payload ahead of it. -/
theorem exists_start {Supply : Type} [ByteSupply Supply] (supply : Supply) {key : ByteString}
    (key_length : key.length = keySize) {size : Nat} (size_pos : 0 < size) {source : Source}
    (flowing : source.Flowing) (length_le : source.bytes.length ≤ 2 ^ 32 * size) :
    ∃ reader chunks last, (SealingReader.start source key size supply).1 = .ok reader ∧
      IsCut size source.bytes chunks last ∧ chunks.length < 2 ^ 32 ∧
      reader.HasOutlook
        ⟨wire key (ByteSupply.draw labelSize supply).1 chunks last, source.faults, none⟩ ∧
      reader.Awaits (placedFrom key (ByteSupply.draw labelSize supply).1 0 (chunks, some last)) := by
  rcases exists_isCut size_pos source.bytes with ⟨chunks, last, isCut⟩
  have count_lt := isCut.length_lt size_pos length_le
  have number_lt : (0 : UInt32).toNat + chunks.length < 2 ^ 32 := by simpa using count_lt
  exact ⟨_, chunks, last, start_eq_initial source key_length size supply, isCut, count_lt,
    hasOutlook_initial key _ size_pos flowing isCut count_lt,
    size_pos, .sealing flowing isCut number_lt⟩

end SealingReader

namespace OpeningReader

/-- The bytes that a refill tries to open, with the nonce of their place. -/
def attempt (reader : OpeningReader) (label : ByteString) (number : UInt32) : PlacedChunk :=
  let sealedSize := reader.size + Gcm.tagSize
  let ciphertext := reader.ciphertext ++
    (reader.source.fill (sealedSize + 1 - reader.ciphertext.length)).received
  if ciphertext.length > sealedSize then
    ⟨chunkNonce label number false, ciphertext.take sealedSize⟩
  else ⟨chunkNonce label number true, ciphertext⟩

/-- The chunks that the refills of `readLoop` open. -/
def openedLoop : Nat → OpeningReader → List PlacedChunk
  | fuel, reader =>
    if reader.position < reader.output.length then []
    else
      match reader.progress, fuel with
      | .label, fuel + 1 =>
        match reader.refillLabel with
        | (some _, _) => []
        | (none, refilled) => openedLoop fuel refilled
      | .chunks label number, fuel + 1 =>
        match reader.refillChunk label number with
        | (some _, _) => []
        | (none, refilled) => reader.attempt label number :: openedLoop fuel refilled
      | _, _ => []

/-- The chunks that one read opens. -/
def openedIn (reader : OpeningReader) (room : Nat) : List PlacedChunk :=
  if room = 0 then []
  else openedLoop (reader.source.weight + reader.ciphertext.length + 3) reader

/-- The chunks that a reader with these contents has still to open. -/
inductive Expects (key : ByteString) (size : Nat) :
    Progress → ByteString → Source → List PlacedChunk → Prop where
  | label {source : Source} (flowing : source.Flowing) (faultless : source.faults = []) :
      Expects key size .label [] source
        (placedFrom key (source.bytes.take labelSize) 0 (openStream key size source.bytes))
  | chunks {label : ByteString} {number : UInt32} {ciphertext : ByteString} {source : Source}
      {opened : List ByteString × Option ByteString}
      (flowing : source.Flowing) (faultless : source.faults = [])
      (opened_eq : openFrom key label size number (ciphertext ++ source.bytes) = opened) :
      Expects key size (.chunks label number) ciphertext source
        (placedFrom key label number.toNat opened)
  | complete {ciphertext : ByteString} {source : Source} :
      Expects key size .complete ciphertext source []
  | failed {ciphertext : ByteString} {source : Source} :
      Expects key size .failed ciphertext source []

def Awaits (reader : OpeningReader) (placed : List PlacedChunk) : Prop :=
  0 < reader.size ∧ Expects reader.key reader.size reader.progress reader.ciphertext reader.source
    placed

variable {reader : OpeningReader} {placed : List PlacedChunk}

section

variable {label : ByteString} {number : UInt32}

theorem attempt_of_long {received : ByteString} {source : Source}
    (filled : reader.filling = ⟨received, source, none⟩)
    (isLong : reader.size + Gcm.tagSize < (reader.ciphertext ++ received).length) :
    reader.attempt label number = ⟨chunkNonce label number false,
      (reader.ciphertext ++ received).take (reader.size + Gcm.tagSize)⟩ := by
  unfold filling at filled
  rw [attempt, filled]
  exact if_pos isLong

theorem attempt_of_short {received : ByteString} {source : Source}
    (filled : reader.filling = ⟨received, source, none⟩)
    (isShort : (reader.ciphertext ++ received).length ≤ reader.size + Gcm.tagSize) :
    reader.attempt label number = ⟨chunkNonce label number true, reader.ciphertext ++ received⟩ := by
  unfold filling at filled
  rw [attempt, filled]
  exact if_neg (Nat.not_lt_of_le isShort)

end

theorem placed_eq_of_openedChunk? {key label sealed chunk : ByteString} {number : UInt32}
    {isLast : Bool} (opened : openedChunk? key label number isLast sealed = some chunk) :
    (⟨chunkNonce label number isLast, sealed⟩ : PlacedChunk) =
      placedChunk key label number.toNat (if isLast then 1 else 0) chunk := by
  rw [chunkNonce_eq, openedChunk?_eq_some_iff.mp opened, placedChunk]

/-- A refill opens the next chunk, after which there is something to hand out or the reader is
complete; or it fails, and then no chunk could be opened. -/
theorem Awaits.refillChunk {label : ByteString} {number : UInt32} (awaits : reader.Awaits placed)
    (progress_eq : reader.progress = .chunks label number) :
    match reader.refillChunk label number with
    | (none, refilled) =>
      (∃ later, placed = reader.attempt label number :: later ∧ refilled.Awaits later) ∧
        (refilled.position < refilled.output.length ∨ refilled.progress = .complete)
    | (some _, refilled) => placed = [] ∧ refilled.progress = .failed ∧ 0 < refilled.size := by
  rcases awaits with ⟨size_pos, expects⟩
  rw [progress_eq] at expects
  cases expects with
  | @chunks _ _ _ _ opened flowing faultless opened_eq =>
      have filled := filled_filling flowing
      have refilling := reader.chunkRefilling_refillChunk label number
      generalize reader.refillChunk label number = outcome at refilling ⊢
      rcases outcome with ⟨error?, refilled⟩
      dsimp only at refilling
      rcases filled.fault_eq_none faultless with ⟨noFault, stillFaultless⟩
      rw [filled.bytes_eq, ← List.append_assoc] at opened_eq
      cases refilling with
      | failed happened =>
          rw [happened] at noFault
          cases noFault
      | refusedNext happened isLong refused =>
          rw [happened, openFrom_append isLong] at opened_eq
          by_cases isLast : number = lastNumber
          · rw [if_pos isLast] at opened_eq
            subst opened_eq
            exact ⟨rfl, rfl, size_pos⟩
          · rw [if_neg isLast, refused isLast] at opened_eq
            subst opened_eq
            exact ⟨rfl, rfl, size_pos⟩
      | refusedLast happened isShort refused =>
          rw [happened] at filled opened_eq
          dsimp only at opened_eq
          rw [(filled.exhausted_of_short isShort).1, List.append_nil, openFrom_of_short isShort,
            refused] at opened_eq
          subst opened_eq
          exact ⟨rfl, rfl, size_pos⟩
      | @openedNext received chunk source happened isLong notLast chunkOpened =>
          rw [attempt_of_long happened isLong]
          rw [happened] at filled stillFaultless
          rw [happened, openFrom_append isLong, if_neg notLast, chunkOpened] at opened_eq
          subst opened_eq
          have chunk_length := length_of_take (Nat.not_le_of_lt isLong)
            (openedChunk?_eq_some_iff.mp chunkOpened)
          have next_eq := toNat_add_one (number_lt_of_ne notLast)
          refine ⟨⟨_, ?_, size_pos, .chunks filled.flowing stillFaultless rfl⟩, Or.inl ?_⟩
          · rw [placed_eq_of_openedChunk? chunkOpened, next_eq]
            exact placedFrom_cons chunk _
          · dsimp only
            omega
      | openedLast happened isShort chunkOpened =>
          rw [attempt_of_short happened isShort]
          rw [happened] at filled opened_eq
          dsimp only at opened_eq
          rw [(filled.exhausted_of_short isShort).1, List.append_nil, openFrom_of_short isShort,
            chunkOpened] at opened_eq
          subst opened_eq
          refine ⟨⟨[], ?_, size_pos, .complete⟩, Or.inr rfl⟩
          rw [placed_eq_of_openedChunk? chunkOpened]
          rfl

/-- Reading the label opens no chunk. -/
theorem Awaits.refillLabel (awaits : reader.Awaits placed) (progress_eq : reader.progress = .label) :
    match reader.refillLabel with
    | (none, refilled) =>
      refilled.Awaits placed ∧ ∃ label number, refilled.progress = .chunks label number
    | (some _, refilled) => placed = [] ∧ refilled.progress = .failed ∧ 0 < refilled.size := by
  rcases awaits with ⟨size_pos, expects⟩
  rw [progress_eq] at expects
  have refilling := reader.labelRefilling_refillLabel
  generalize reader.refillLabel = outcome at refilling ⊢
  rcases outcome with ⟨error?, refilled⟩
  dsimp only at refilling
  generalize ciphertext_eq : reader.ciphertext = ciphertext at expects
  cases expects with
  | label flowing faultless =>
      have filled := flowing.filled_fill labelSize
      cases refilling with
      | failed happened =>
          rw [happened] at filled
          cases (filled.fault_eq_none faultless).1
      | cutShort happened isShort =>
          rw [happened] at filled
          rcases filled.exhausted rfl isShort with ⟨bytes_eq, _⟩
          dsimp only at bytes_eq
          rw [filled.bytes_eq, bytes_eq, List.append_nil, openStream, if_pos isShort]
          exact ⟨rfl, rfl, size_pos⟩
      | @labelled received source happened notShort =>
          rw [happened] at filled
          have received_length : received.length = labelSize :=
            Nat.le_antisymm filled.length_le notShort
          rw [filled.bytes_eq, openStream_append received_length, List.take_left' received_length]
          refine ⟨⟨size_pos, .chunks filled.flowing (filled.fault_eq_none faultless).2 ?_⟩,
            received, 0, rfl⟩
          rw [ciphertext_eq]
          rfl

/-- What a read logs, and the reader after it, take the next bit off what is to be logged. -/
def Uses (placed log : List PlacedChunk) (after : OpeningReader) : Prop :=
  ∃ later, placed = log ++ later ∧ after.Awaits later

theorem uses_of_failed (nothing : placed = []) (hasFailed : reader.progress = .failed)
    (size_pos : 0 < reader.size) : Uses placed [] reader := by
  refine ⟨[], nothing, size_pos, ?_⟩
  rw [hasFailed]
  exact .failed

theorem Awaits.uses_openedLoop_of_settled (awaits : reader.Awaits placed)
    (settled : reader.position < reader.output.length ∨ reader.progress = .complete ∨
      reader.progress = .failed) (room fuel : Nat) :
    Uses placed (openedLoop fuel reader) (readLoop room fuel reader).2 := by
  rw [openedLoop.eq_def, readLoop.eq_def]
  dsimp only
  by_cases waiting : reader.position < reader.output.length
  · rw [if_pos waiting, if_pos waiting]
    exact ⟨placed, rfl, awaits⟩
  · rw [if_neg waiting, if_neg waiting]
    rcases settled with stillWaiting | isComplete | hasFailed
    · exact absurd stillWaiting waiting
    · rw [isComplete]
      exact ⟨placed, rfl, awaits⟩
    · rw [hasFailed]
      exact ⟨placed, rfl, awaits⟩

theorem Awaits.uses_openedLoop_of_chunks (awaits : reader.Awaits placed) {label : ByteString}
    {number : UInt32} (progress_eq : reader.progress = .chunks label number) (room fuel : Nat) :
    Uses placed (openedLoop (fuel + 1) reader) (readLoop room (fuel + 1) reader).2 := by
  by_cases waiting : reader.position < reader.output.length
  · exact awaits.uses_openedLoop_of_settled (Or.inl waiting) room (fuel + 1)
  · have refilled := awaits.refillChunk progress_eq
    rw [openedLoop.eq_def, readLoop.eq_def]
    dsimp only
    rw [if_neg waiting, if_neg waiting, progress_eq]
    dsimp only
    generalize reader.refillChunk label number = outcome at refilled ⊢
    rcases outcome with ⟨_ | error, next⟩
    · rcases refilled with ⟨⟨rest, rfl, awaitsRest⟩, settled⟩
      have nextSettled : next.position < next.output.length ∨ next.progress = .complete ∨
          next.progress = .failed := by
        rcases settled with stillWaiting | isComplete
        · exact Or.inl stillWaiting
        · exact Or.inr (Or.inl isComplete)
      rcases awaitsRest.uses_openedLoop_of_settled nextSettled room fuel with
        ⟨later, rfl, awaitsLater⟩
      exact ⟨later, rfl, awaitsLater⟩
    · exact uses_of_failed refilled.1 refilled.2.1 refilled.2.2

theorem Awaits.uses_openedLoop_of_label (awaits : reader.Awaits placed)
    (progress_eq : reader.progress = .label) (room fuel : Nat) :
    Uses placed (openedLoop (fuel + 2) reader) (readLoop room (fuel + 2) reader).2 := by
  by_cases waiting : reader.position < reader.output.length
  · exact awaits.uses_openedLoop_of_settled (Or.inl waiting) room (fuel + 2)
  · have refilled := awaits.refillLabel progress_eq
    rw [openedLoop.eq_def, readLoop.eq_def]
    dsimp only
    rw [if_neg waiting, if_neg waiting, progress_eq]
    dsimp only
    generalize reader.refillLabel = outcome at refilled ⊢
    rcases outcome with ⟨_ | error, next⟩
    · rcases refilled with ⟨awaitsNext, label, number, readsChunks⟩
      exact awaitsNext.uses_openedLoop_of_chunks readsChunks room fuel
    · exact uses_of_failed refilled.1 refilled.2.1 refilled.2.2

theorem logs_openedIn : Logs OpeningReader.read openedIn Awaits := by
  intro reader placed room awaits
  unfold openedIn OpeningReader.read
  by_cases noRoom : room = 0
  · rw [if_pos noRoom, if_pos noRoom]
    exact ⟨placed, rfl, awaits⟩
  · rw [if_neg noRoom, if_neg noRoom]
    cases progress_eq : reader.progress with
    | label => exact awaits.uses_openedLoop_of_label progress_eq room _
    | chunks label number => exact awaits.uses_openedLoop_of_chunks progress_eq room _
    | complete => exact awaits.uses_openedLoop_of_settled (Or.inr (Or.inl progress_eq)) room _
    | failed => exact awaits.uses_openedLoop_of_settled (Or.inr (Or.inr progress_eq)) room _

theorem progress_of_readLoop_end {room : Nat} (room_pos : 0 < room) (fuel : Nat)
    (ended : (readLoop room fuel reader).1 = .ok []) :
    (readLoop room fuel reader).2.progress = .complete := by
  fun_induction readLoop room fuel reader with
  | case1 fuel reader waiting handed position drain_eq =>
      have handed_ne := drain_ne_nil waiting room_pos
      rw [drain_eq] at handed_ne
      exact absurd (Except.ok.inj ended) handed_ne
  | case2 fuel reader spent isComplete => exact isComplete
  | case3 => cases ended
  | case4 => cases ended
  | case5 => cases ended
  | case6 reader spent fuel isLabel refilled happened ih => exact ih ended
  | case7 => cases ended
  | case8 reader spent label number fuel isChunks refilled happened ih => exact ih ended

/-- A reader that reports the end is complete, and one that reports an error has failed. -/
theorem progress_of_readLoop {room : Nat} (room_pos : 0 < room) (fuel : Nat)
    (stops : (readLoop room fuel reader).1 = .ok [] ∨
      ∃ error, (readLoop room fuel reader).1 = .error error) :
    (readLoop room fuel reader).2.progress = .complete ∨
      (readLoop room fuel reader).2.progress = .failed := by
  rcases stops with ended | ⟨error, fails⟩
  · exact Or.inl (progress_of_readLoop_end room_pos fuel ended)
  · exact Or.inr (hasFailed_of_readLoop fails).progress_eq

/-- By the time that reading stops every chunk that could be opened has been opened. -/
theorem Awaits.logged_eq (awaits : reader.Awaits placed) {rooms : Nat → Nat} {stop : Nat}
    (stops : Stops OpeningReader.read reader rooms stop) :
    logged OpeningReader.read openedIn reader rooms (stop + 1) = placed := by
  rcases stops with ⟨room_pos, stops⟩
  rcases logs_openedIn.exists_later awaits rooms (stop + 1) with ⟨later, rfl, _, expects⟩
  rw [readerAfter_succ] at expects
  unfold answerAt at stops
  generalize readerAfter OpeningReader.read reader rooms stop = last at expects stops
  rw [OpeningReader.read, if_neg (Nat.ne_of_gt room_pos)] at expects stops
  rcases progress_of_readLoop room_pos _ stops with isComplete | hasFailed
  · rw [isComplete] at expects
    cases expects with
    | complete => exact (List.append_nil _).symm
  · rw [hasFailed] at expects
    cases expects with
    | failed => exact (List.append_nil _).symm

/-- A reader that has just been started has ahead of it what the bytes of its source open to. -/
theorem exists_start {key : ByteString} (key_length : key.length = keySize) {size : Nat}
    (size_pos : 0 < size) {source : Source} (flowing : source.Flowing)
    (faultless : source.faults = []) :
    ∃ reader, OpeningReader.start source key size = .ok reader ∧
      reader.HasOutlook ⟨payloadOf (openStream key size source.bytes), [],
        failureOf (openStream key size source.bytes)⟩ ∧
      reader.Awaits
        (placedFrom key (source.bytes.take labelSize) 0 (openStream key size source.bytes)) := by
  exact ⟨_, start_eq_initial source key_length size,
    hasOutlook_initial key size_pos flowing faultless, size_pos, .label flowing faultless⟩

end OpeningReader

end SealedStream

end KeyCustody

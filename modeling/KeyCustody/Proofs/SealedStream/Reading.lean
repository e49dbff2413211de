import KeyCustody.SealedStream.Chunk
import KeyCustody.SealedStream.Output
import Mathlib.Data.Nat.Count

/-!
# Reads with buffers of any size

A reader is asked for bytes again and again, each time with the room that the caller happens to have.
What is still to come from a reader is its outlook: the bytes to be handed out, the failures of its
source to be passed on, and how it ends. A reader keeps to its outlooks if every read takes the next bit
off the outlook (`Outlook.Step`). What all its reads together return then depends on the first outlook
alone, and not on the rooms.
-/

namespace KeyCustody

namespace SealedStream

def bytesIn : Except StreamError ByteString → ByteString
  | .ok bytes => bytes
  | .error _ => []

def errorIn : Except StreamError ByteString → Option StreamError
  | .ok _ => none
  | .error error => some error

section

variable {Reader : Type} (read : Reader → Nat → Except StreamError ByteString × Reader)

/-- The answers to the first `count` reads with the given rooms. -/
def answers (reader : Reader) (rooms : Nat → Nat) : Nat → List (Except StreamError ByteString)
  | 0 => []
  | count + 1 =>
    (read reader (rooms 0)).1 ::
      answers (read reader (rooms 0)).2 (fun position => rooms (position + 1)) count

/-- The reader after the first `count` reads with the given rooms. -/
def readerAfter (reader : Reader) (rooms : Nat → Nat) : Nat → Reader
  | 0 => reader
  | count + 1 => readerAfter (read reader (rooms 0)).2 (fun position => rooms (position + 1)) count

def answerAt (reader : Reader) (rooms : Nat → Nat) (position : Nat) :
    Except StreamError ByteString :=
  (read (readerAfter read reader rooms position) (rooms position)).1

/-- The bytes that the first `count` reads return, one after the other. -/
def returned (reader : Reader) (rooms : Nat → Nat) (count : Nat) : ByteString :=
  (answers read reader rooms count).flatMap bytesIn

/-- The errors of the first `count` reads, one after the other. -/
def raised (reader : Reader) (rooms : Nat → Nat) (count : Nat) : List StreamError :=
  (answers read reader rooms count).filterMap errorIn

theorem returned_succ (reader : Reader) (rooms : Nat → Nat) (count : Nat) :
    returned read reader rooms (count + 1) = bytesIn (read reader (rooms 0)).1 ++
      returned read (read reader (rooms 0)).2 (fun position => rooms (position + 1)) count := rfl

theorem raised_succ (reader : Reader) (rooms : Nat → Nat) (count : Nat) :
    raised read reader rooms (count + 1) = (errorIn (read reader (rooms 0)).1).toList ++
      raised read (read reader (rooms 0)).2 (fun position => rooms (position + 1)) count := by
  rw [raised, raised, answers]
  cases (read reader (rooms 0)).1 <;> rfl

variable {read}

theorem readerAfter_succ (reader : Reader) (rooms : Nat → Nat) (count : Nat) :
    readerAfter read reader rooms (count + 1) =
      (read (readerAfter read reader rooms count) (rooms count)).2 := by
  induction count generalizing reader rooms with
  | zero => rfl
  | succ count ih => exact ih (read reader (rooms 0)).2 (fun position => rooms (position + 1))

/-- What every read keeps holds after any number of them. -/
theorem holds_readerAfter {Holds : Reader → Prop}
    (kept : ∀ reader room, Holds reader → Holds (read reader room).2) {reader : Reader}
    (holds : Holds reader) (rooms : Nat → Nat) (count : Nat) :
    Holds (readerAfter read reader rooms count) := by
  induction count generalizing reader rooms with
  | zero => exact holds
  | succ count ih => exact ih (kept reader (rooms 0) holds) fun position => rooms (position + 1)

theorem returned_concat (reader : Reader) (rooms : Nat → Nat) (count : Nat) :
    returned read reader rooms (count + 1) =
      returned read reader rooms count ++ bytesIn (answerAt read reader rooms count) := by
  induction count generalizing reader rooms with
  | zero => exact List.append_nil _
  | succ count ih =>
      rw [returned_succ, ih, returned_succ, List.append_assoc]
      rfl

end

/-- What is still to come from a reader. -/
structure Outlook where
  bytes : ByteString
  faults : List ReadFault
  /-- The error of every read after the last byte; none if these reads report the end. -/
  failure : Option StreamError

namespace Outlook

/-- The answer to every read after the last byte and the last failure of the source. -/
def finalAnswer (outlook : Outlook) : Except StreamError ByteString :=
  match outlook.failure with
  | none => .ok []
  | some error => .error error

/-- What one read takes off an outlook. -/
inductive Step (room : Nat) : Outlook → Except StreamError ByteString → Outlook → Prop where
  | idle {outlook : Outlook} (noRoom : room = 0) : Step room outlook (.ok []) outlook
  | handed {bytes rest : ByteString} {faults : List ReadFault} {failure : Option StreamError}
      (nonempty : bytes ≠ []) (length_le : bytes.length ≤ room) :
      Step room ⟨bytes ++ rest, faults, failure⟩ (.ok bytes) ⟨rest, faults, failure⟩
  | passedOn {bytes : ByteString} {fault : ReadFault} {faults : List ReadFault}
      {failure : Option StreamError} (room_pos : 0 < room) :
      Step room ⟨bytes, fault :: faults, failure⟩ (.error (.source fault)) ⟨bytes, faults, failure⟩
  | ended {failure : Option StreamError} (room_pos : 0 < room) :
      Step room ⟨[], [], failure⟩ (finalAnswer ⟨[], [], failure⟩) ⟨[], [], failure⟩

variable {outlook next : Outlook} {room : Nat} {answer : Except StreamError ByteString}
  {error : StreamError}

/-- An output from whose position on bytes wait is handed out as far as there is room. -/
theorem Step.drained {output : ByteString} {position : Nat} (waiting : position < output.length)
    (room_pos : 0 < room) (rest : ByteString) (faults : List ReadFault)
    (failure : Option StreamError) :
    Step room ⟨output.drop position ++ rest, faults, failure⟩
      (.ok (drain output position room).1)
      ⟨output.drop (drain output position room).2 ++ rest, faults, failure⟩ := by
  rw [← drain_append_drop output position room, List.append_assoc]
  exact .handed (drain_ne_nil waiting room_pos) (length_drain_le output position room)

theorem Step.failure_eq (step : Step room outlook answer next) : next.failure = outlook.failure := by
  cases step <;> rfl

theorem Step.eq_of_no_room (step : Step room outlook answer next) (noRoom : room = 0) :
    next = outlook := by
  cases step with
  | idle => rfl
  | handed nonempty length_le =>
      have length_pos := List.length_pos_iff.mpr nonempty
      omega
  | passedOn => omega
  | ended => rfl

/-- A read with room reports the end exactly if nothing is to come, not even a failure. -/
theorem Step.answer_eq_end_iff (step : Step room outlook answer next) (room_pos : 0 < room) :
    answer = .ok [] ↔ outlook = ⟨[], [], none⟩ := by
  cases step with
  | idle noRoom => omega
  | handed nonempty => simp [nonempty]
  | passedOn => simp
  | @ended failure =>
      cases failure <;> simp [finalAnswer]

theorem Step.bytes_eq (step : Step room outlook answer next) :
    outlook.bytes = bytesIn answer ++ next.bytes := by
  cases step with
  | @ended failure =>
      cases failure <;> rfl
  | _ => rfl

theorem Step.faults_eq (step : Step room outlook answer next) (noFailure : outlook.failure = none) :
    outlook.faults.map StreamError.source =
      (errorIn answer).toList ++ next.faults.map StreamError.source := by
  cases step with
  | ended =>
      subst noFailure
      rfl
  | _ => rfl

/-- A read with room takes something off the outlook or gives the final answer. -/
theorem Step.progress (step : Step room outlook answer next) (room_pos : 0 < room) :
    next.bytes.length + next.faults.length < outlook.bytes.length + outlook.faults.length ∨
      outlook.bytes = [] ∧ outlook.faults = [] ∧ answer = outlook.finalAnswer ∧ next = outlook := by
  cases step with
  | idle noRoom => omega
  | handed nonempty =>
      left
      have length_pos := List.length_pos_iff.mpr nonempty
      simp only [List.length_append]
      omega
  | passedOn =>
      left
      simp
  | ended => exact Or.inr ⟨rfl, rfl, rfl, rfl⟩

theorem Step.faults_eq_of_progress (step : Step room outlook answer next)
    (lower : next.bytes.length + next.faults.length <
      outlook.bytes.length + outlook.faults.length) :
    outlook.faults.map StreamError.source =
      (errorIn answer).toList ++ next.faults.map StreamError.source := by
  cases step with
  | ended => exact absurd lower (Nat.lt_irrefl _)
  | _ => rfl

/-- Whatever a read raises is the next failure of the source, or the error at the end again. -/
theorem Step.faults_eq_of_failure (step : Step room outlook answer next)
    (failure_eq : outlook.failure = some error) :
    ∃ times, outlook.faults.map StreamError.source ++ List.replicate times error =
      (errorIn answer).toList ++ next.faults.map StreamError.source := by
  cases step with
  | ended =>
      subst failure_eq
      exact ⟨1, rfl⟩
  | idle => exact ⟨0, List.append_nil _⟩
  | handed => exact ⟨0, List.append_nil _⟩
  | passedOn => exact ⟨0, List.append_nil _⟩

/-- Where nothing is to come but an error at the end, a read with room gives this error. -/
theorem Step.spent (step : Step room ⟨[], [], some error⟩ answer next) :
    next = ⟨[], [], some error⟩ ∧ (0 < room → answer = .error error) := by
  generalize outlook_eq : (⟨[], [], some error⟩ : Outlook) = outlook at step
  cases step with
  | idle noRoom => exact ⟨rfl, fun room_pos => absurd noRoom (Nat.ne_of_gt room_pos)⟩
  | handed nonempty =>
      have bytes_eq := congrArg Outlook.bytes outlook_eq
      exact absurd (List.append_eq_nil_iff.mp bytes_eq.symm).1 nonempty
  | passedOn => cases outlook_eq
  | ended =>
      cases outlook_eq
      exact ⟨rfl, fun _ => rfl⟩

/-- An error that no source raises comes only where nothing else is to come any more. -/
theorem Step.spent_of_error (step : Step room outlook (.error error) next)
    (notSource : ∀ fault, error ≠ .source fault) : outlook = ⟨[], [], some error⟩ := by
  generalize answer_eq : (.error error : Except StreamError ByteString) = answer at step
  cases step with
  | idle => cases answer_eq
  | handed => cases answer_eq
  | @passedOn _ fault => exact absurd (Except.error.inj answer_eq) (notSource fault)
  | @ended failure =>
      cases failure with
      | none => cases answer_eq
      | some _ =>
          cases answer_eq
          rfl

theorem Step.not_end_of_progress (step : Step room outlook answer next)
    (lower : next.bytes.length + next.faults.length <
      outlook.bytes.length + outlook.faults.length) (room_pos : 0 < room) : answer ≠ .ok [] := by
  rw [Ne, step.answer_eq_end_iff room_pos]
  rintro rfl
  exact Nat.not_lt_zero _ lower

end Outlook

/-- Every read of a reader takes the next bit off the outlook. -/
def KeepsTo {Reader : Type} (read : Reader → Nat → Except StreamError ByteString × Reader)
    (hasOutlook : Reader → Outlook → Prop) : Prop :=
  ∀ reader outlook room, hasOutlook reader outlook →
    ∃ next, Outlook.Step room outlook (read reader room).1 next ∧
      hasOutlook (read reader room).2 next

/-- Whatever the rooms, what reads return is the stream as far as it goes, and what they raise are the
failures of the source in their order. A read with room reports the end once all of both is through and
not before, and enough reads with room get there. -/
structure Yields {Reader : Type} (read : Reader → Nat → Except StreamError ByteString × Reader)
    (reader : Reader) (stream : ByteString) (faults : List ReadFault) : Prop where
  returned_start (rooms : Nat → Nat) (count : Nat) : returned read reader rooms count <+: stream
  raised_start (rooms : Nat → Nat) (count : Nat) :
    raised read reader rooms count <+: faults.map StreamError.source
  ended_iff (rooms : Nat → Nat) (count : Nat) (room_pos : 0 < rooms count) :
    answerAt read reader rooms count = .ok [] ↔
      returned read reader rooms count = stream ∧
        raised read reader rooms count = faults.map StreamError.source
  ends (rooms : Nat → Nat) (count : Nat)
    (enough : stream.length + faults.length <
      Nat.count (fun position => 0 < rooms position) count) :
    ∃ position < count, 0 < rooms position ∧ answerAt read reader rooms position = .ok []

/-- Whatever the rooms, what reads return is the stream as far as it goes, and what they raise are the
failures of the source in their order and then nothing but the error. A read with room fails with the
error once all of both is through and not before, and so does every later one; enough reads with room
get there, and none reports an end. -/
structure BreaksOff {Reader : Type} (read : Reader → Nat → Except StreamError ByteString × Reader)
    (reader : Reader) (stream : ByteString) (faults : List ReadFault) (error : StreamError) :
    Prop where
  returned_start (rooms : Nat → Nat) (count : Nat) : returned read reader rooms count <+: stream
  raised_start (rooms : Nat → Nat) (count : Nat) :
    ∃ times, raised read reader rooms count <+:
      faults.map StreamError.source ++ List.replicate times error
  fails_iff (rooms : Nat → Nat) (count : Nat) (room_pos : 0 < rooms count) :
    answerAt read reader rooms count = .error error ↔
      returned read reader rooms count = stream ∧
        faults.map StreamError.source <+: raised read reader rooms count
  stays (rooms : Nat → Nat) (position later : Nat)
    (fails : answerAt read reader rooms position = .error error) (isLater : position ≤ later)
    (room_pos : 0 < rooms later) : answerAt read reader rooms later = .error error
  not_ended (rooms : Nat → Nat) (count : Nat) (room_pos : 0 < rooms count) :
    answerAt read reader rooms count ≠ .ok []
  fails (rooms : Nat → Nat) (count : Nat)
    (enough : stream.length + faults.length <
      Nat.count (fun position => 0 < rooms position) count) :
    ∃ position < count, 0 < rooms position ∧ answerAt read reader rooms position = .error error

/-- Reads report the end, all before them have succeeded and together they have returned the payload. -/
def ReachesEnd {Reader : Type} (read : Reader → Nat → Except StreamError ByteString × Reader)
    (reader : Reader) (rooms : Nat → Nat) (payload : ByteString) : Prop :=
  ∃ count, returned read reader rooms count = payload ∧ raised read reader rooms count = [] ∧
    answerAt read reader rooms count = .ok []

/-- After the payload every read fails with the error, and no read before has failed or reported the
end. -/
def FailsAfter {Reader : Type} (read : Reader → Nat → Except StreamError ByteString × Reader)
    (reader : Reader) (rooms : Nat → Nat) (payload : ByteString) (error : StreamError) : Prop :=
  ∃ finish, returned read reader rooms finish = payload ∧ raised read reader rooms finish = [] ∧
    (∀ position < finish, answerAt read reader rooms position ≠ .ok []) ∧
    ∀ position, finish ≤ position → answerAt read reader rooms position = .error error

namespace KeepsTo

variable {Reader : Type} {read : Reader → Nat → Except StreamError ByteString × Reader}
  {hasOutlook : Reader → Outlook → Prop} {reader : Reader} {outlook : Outlook}

/-- After any number of reads the outlook is what these reads have left of it. -/
theorem exists_left (keepsTo : KeepsTo read hasOutlook) (starts : hasOutlook reader outlook)
    (rooms : Nat → Nat) (count : Nat) :
    ∃ left, hasOutlook (readerAfter read reader rooms count) left ∧
      left.failure = outlook.failure ∧
      outlook.bytes = returned read reader rooms count ++ left.bytes ∧
      (outlook.failure = none → outlook.faults.map StreamError.source =
        raised read reader rooms count ++ left.faults.map StreamError.source) := by
  induction count generalizing reader outlook rooms with
  | zero => exact ⟨outlook, starts, rfl, rfl, fun _ => rfl⟩
  | succ count ih =>
      rcases keepsTo reader outlook (rooms 0) starts with ⟨next, step, nextStarts⟩
      rcases ih nextStarts (fun position => rooms (position + 1)) with
        ⟨left, hasLeft, failure_eq, bytes_eq, faults_eq⟩
      refine ⟨left, hasLeft, failure_eq.trans step.failure_eq, ?_, ?_⟩
      · rw [step.bytes_eq, bytes_eq, returned_succ, List.append_assoc]
      · intro noFailure
        rw [step.faults_eq noFailure, faults_eq (step.failure_eq.trans noFailure), raised_succ,
          List.append_assoc]

theorem exists_finalAnswer (keepsTo : KeepsTo read hasOutlook) (starts : hasOutlook reader outlook)
    {rooms : Nat → Nat} {count : Nat}
    (enough : outlook.bytes.length + outlook.faults.length <
      Nat.count (fun position => 0 < rooms position) count) :
    ∃ position < count, 0 < rooms position ∧
      answerAt read reader rooms position = outlook.finalAnswer := by
  induction count generalizing reader outlook rooms with
  | zero => exact absurd enough (Nat.not_lt_zero _)
  | succ count ih =>
      rcases keepsTo reader outlook (rooms 0) starts with ⟨next, step, nextStarts⟩
      have finalAnswer_eq : next.finalAnswer = outlook.finalAnswer := by
        rw [Outlook.finalAnswer, Outlook.finalAnswer, step.failure_eq]
      have later : next.bytes.length + next.faults.length <
          Nat.count (fun position => 0 < rooms (position + 1)) count →
          ∃ position < count + 1, 0 < rooms position ∧
            answerAt read reader rooms position = outlook.finalAnswer := by
        intro stillEnough
        rcases ih nextStarts stillEnough with ⟨position, position_lt, room_pos, answer_eq⟩
        refine ⟨position + 1, Nat.succ_lt_succ position_lt, room_pos, ?_⟩
        rw [← finalAnswer_eq, ← answer_eq]
        rfl
      rw [Nat.count_succ'] at enough
      by_cases room_pos : 0 < rooms 0
      · rcases step.progress room_pos with lower | ⟨_, _, answer_eq, _⟩
        · rw [if_pos room_pos] at enough
          exact later (by omega)
        · exact ⟨0, Nat.succ_pos count, room_pos, answer_eq⟩
      · have same := step.eq_of_no_room (Nat.eq_zero_of_not_pos room_pos)
        rw [if_neg room_pos] at enough
        rw [same] at later
        exact later enough

theorem yields (keepsTo : KeepsTo read hasOutlook) {stream : ByteString} {faults : List ReadFault}
    (starts : hasOutlook reader ⟨stream, faults, none⟩) : Yields read reader stream faults where
  returned_start := by
    intro rooms count
    rcases keepsTo.exists_left starts rooms count with ⟨left, _, _, bytes_eq, _⟩
    exact ⟨left.bytes, bytes_eq.symm⟩
  raised_start := by
    intro rooms count
    rcases keepsTo.exists_left starts rooms count with ⟨left, _, _, _, faults_eq⟩
    exact ⟨left.faults.map StreamError.source, (faults_eq rfl).symm⟩
  ended_iff := by
    intro rooms count room_pos
    rcases keepsTo.exists_left starts rooms count with
      ⟨⟨bytes, faultsLeft, failure⟩, hasLeft, failure_eq, bytes_eq, faults_eq⟩
    rcases keepsTo _ _ (rooms count) hasLeft with ⟨next, step, _⟩
    dsimp only at failure_eq bytes_eq faults_eq
    rw [answerAt, step.answer_eq_end_iff room_pos, failure_eq, faults_eq rfl, bytes_eq]
    simp
  ends := by
    intro rooms count enough
    exact keepsTo.exists_finalAnswer starts enough

theorem exists_left_of_failure (keepsTo : KeepsTo read hasOutlook)
    (starts : hasOutlook reader outlook) {error : StreamError}
    (failure_eq : outlook.failure = some error) (rooms : Nat → Nat) (count : Nat) :
    ∃ left times, hasOutlook (readerAfter read reader rooms count) left ∧
      left.failure = some error ∧
      outlook.bytes = returned read reader rooms count ++ left.bytes ∧
      outlook.faults.map StreamError.source ++ List.replicate times error =
        raised read reader rooms count ++ left.faults.map StreamError.source := by
  induction count generalizing reader outlook rooms with
  | zero => exact ⟨outlook, 0, starts, failure_eq, rfl, List.append_nil _⟩
  | succ count ih =>
      rcases keepsTo reader outlook (rooms 0) starts with ⟨next, step, nextStarts⟩
      rcases step.faults_eq_of_failure failure_eq with ⟨once, first_eq⟩
      rcases ih nextStarts (step.failure_eq.trans failure_eq) (fun position => rooms (position + 1))
        with ⟨left, times, hasLeft, leftFailure_eq, bytes_eq, faults_eq⟩
      refine ⟨left, once + times, hasLeft, leftFailure_eq, ?_, ?_⟩
      · rw [step.bytes_eq, bytes_eq, returned_succ, List.append_assoc]
      · rw [List.replicate_add, ← List.append_assoc, first_eq, List.append_assoc, faults_eq,
          raised_succ, List.append_assoc]

/-- Once nothing is to come but an error, this remains so. -/
theorem spent_of_le (keepsTo : KeepsTo read hasOutlook) {error : StreamError} {rooms : Nat → Nat}
    {position later : Nat}
    (spent : hasOutlook (readerAfter read reader rooms position) ⟨[], [], some error⟩)
    (isLater : position ≤ later) :
    hasOutlook (readerAfter read reader rooms later) ⟨[], [], some error⟩ := by
  induction later, isLater using Nat.le_induction with
  | base => exact spent
  | succ later _ ih =>
      rcases keepsTo _ _ (rooms later) ih with ⟨next, step, nextStarts⟩
      rw [readerAfter_succ, ← step.spent.1]
      exact nextStarts

theorem breaksOff (keepsTo : KeepsTo read hasOutlook) {stream : ByteString}
    {faults : List ReadFault} {error : StreamError} (notSource : ∀ fault, error ≠ .source fault)
    (starts : hasOutlook reader ⟨stream, faults, some error⟩) :
    BreaksOff read reader stream faults error where
  returned_start := by
    intro rooms count
    rcases keepsTo.exists_left starts rooms count with ⟨left, _, _, bytes_eq, _⟩
    exact ⟨left.bytes, bytes_eq.symm⟩
  raised_start := by
    intro rooms count
    rcases keepsTo.exists_left_of_failure starts rfl rooms count with
      ⟨left, times, _, _, _, faults_eq⟩
    exact ⟨times, left.faults.map StreamError.source, faults_eq.symm⟩
  fails_iff := by
    intro rooms count room_pos
    rcases keepsTo.exists_left_of_failure starts rfl rooms count with
      ⟨left, times, hasLeft, failure_eq, bytes_eq, faults_eq⟩
    rcases keepsTo _ left (rooms count) hasLeft with ⟨next, step, _⟩
    dsimp only at bytes_eq faults_eq
    constructor
    · intro fails
      rw [← answerAt, fails] at step
      have left_eq := step.spent_of_error notSource
      subst left_eq
      rw [List.append_nil] at bytes_eq
      rw [List.map_nil, List.append_nil] at faults_eq
      exact ⟨bytes_eq.symm, ⟨_, faults_eq⟩⟩
    · rintro ⟨returned_eq, more, raised_eq⟩
      rcases left with ⟨bytes, faultsLeft, failure⟩
      dsimp only at failure_eq bytes_eq faults_eq
      rw [returned_eq, List.self_eq_append_right] at bytes_eq
      rw [← raised_eq, List.append_assoc, List.append_cancel_left_eq] at faults_eq
      have noFault : faultsLeft = [] := by
        rw [List.eq_nil_iff_forall_not_mem]
        intro fault isLeft
        have isError : StreamError.source fault ∈ List.replicate times error := by
          rw [faults_eq]
          exact List.mem_append_right more (List.mem_map_of_mem isLeft)
        exact notSource fault (List.eq_of_mem_replicate isError).symm
      subst bytes_eq noFault failure_eq
      exact step.spent.2 room_pos
  stays := by
    intro rooms position later fails isLater room_pos
    rcases keepsTo.exists_left starts rooms position with ⟨left, hasLeft, _, _, _⟩
    rcases keepsTo _ left (rooms position) hasLeft with ⟨next, step, _⟩
    rw [← answerAt, fails] at step
    rw [step.spent_of_error notSource] at hasLeft
    rcases keepsTo _ _ (rooms later) (keepsTo.spent_of_le hasLeft isLater) with ⟨last, lastStep, _⟩
    exact lastStep.spent.2 room_pos
  not_ended := by
    intro rooms count room_pos ended
    rcases keepsTo.exists_left starts rooms count with ⟨left, hasLeft, failure_eq, _, _⟩
    rcases keepsTo _ left (rooms count) hasLeft with ⟨next, step, _⟩
    rw [(step.answer_eq_end_iff room_pos).mp ended] at failure_eq
    cases failure_eq
  fails := by
    intro rooms count enough
    exact keepsTo.exists_finalAnswer starts enough

theorem answerAt_ne (keepsTo : KeepsTo read hasOutlook) (starts : hasOutlook reader outlook)
    (noFailure : outlook.failure = none) {error : StreamError}
    (notSource : ∀ fault, error ≠ .source fault) (rooms : Nat → Nat) (position : Nat) :
    answerAt read reader rooms position ≠ .error error := by
  intro fails
  rcases keepsTo.exists_left starts rooms position with ⟨left, hasLeft, failure_eq, _, _⟩
  rcases keepsTo _ left (rooms position) hasLeft with ⟨next, step, _⟩
  rw [← answerAt, fails] at step
  rw [step.spent_of_error notSource, noFailure] at failure_eq
  cases failure_eq

theorem answerAt_of_spent (keepsTo : KeepsTo read hasOutlook) (starts : hasOutlook reader outlook)
    (bytes_eq : outlook.bytes = []) (faults_eq : outlook.faults = []) {rooms : Nat → Nat}
    (rooms_pos : ∀ position, 0 < rooms position) (position : Nat) :
    answerAt read reader rooms position = outlook.finalAnswer := by
  induction position generalizing reader outlook rooms with
  | zero =>
      rcases keepsTo reader outlook (rooms 0) starts with ⟨next, step, _⟩
      rcases step.progress (rooms_pos 0) with lower | ⟨_, _, answer_eq, _⟩
      · simp [bytes_eq, faults_eq] at lower
      · exact answer_eq
  | succ position ih =>
      rcases keepsTo reader outlook (rooms 0) starts with ⟨next, step, nextStarts⟩
      rcases step.progress (rooms_pos 0) with lower | ⟨_, _, _, same⟩
      · simp [bytes_eq, faults_eq] at lower
      · subst same
        exact ih nextStarts bytes_eq faults_eq fun position => rooms_pos (position + 1)

/-- With room in every read there is a first read that gives the final answer; those before it bring
the bytes and the failures of the outlook, and those after it give the same answer. -/
theorem exists_finish (keepsTo : KeepsTo read hasOutlook) (starts : hasOutlook reader outlook)
    {rooms : Nat → Nat} (rooms_pos : ∀ position, 0 < rooms position) :
    ∃ finish, returned read reader rooms finish = outlook.bytes ∧
      raised read reader rooms finish = outlook.faults.map StreamError.source ∧
      (∀ position < finish, answerAt read reader rooms position ≠ .ok []) ∧
      ∀ position, finish ≤ position →
        answerAt read reader rooms position = outlook.finalAnswer := by
  generalize size_eq : outlook.bytes.length + outlook.faults.length = size
  induction size using Nat.strongRecOn generalizing reader outlook rooms with
  | ind size ih =>
      subst size_eq
      rcases keepsTo reader outlook (rooms 0) starts with ⟨next, step, nextStarts⟩
      rcases step.progress (rooms_pos 0) with lower | ⟨bytes_eq, faults_eq, _, _⟩
      · rcases ih _ lower nextStarts (fun position => rooms_pos (position + 1)) rfl with
          ⟨finish, returned_eq, raised_eq, notEnd, final⟩
        have notFirst := step.not_end_of_progress lower (rooms_pos 0)
        refine ⟨finish + 1, ?_, ?_, ?_, ?_⟩
        · rw [step.bytes_eq, ← returned_eq, returned_succ]
        · rw [raised_succ, raised_eq]
          exact (step.faults_eq_of_progress lower).symm
        · intro position position_lt
          cases position with
          | zero => exact notFirst
          | succ position => exact notEnd position (Nat.lt_of_succ_lt_succ position_lt)
        · intro position finish_le
          cases position with
          | zero => exact absurd finish_le (Nat.not_succ_le_zero finish)
          | succ position =>
              have answer_eq := final position (Nat.le_of_succ_le_succ finish_le)
              rw [Outlook.finalAnswer, step.failure_eq] at answer_eq
              exact answer_eq
      · refine ⟨0, bytes_eq.symm, ?_, ?_, ?_⟩
        · rw [faults_eq]
          rfl
        · intro position impossible
          exact absurd impossible (Nat.not_lt_zero position)
        · intro position _
          exact keepsTo.answerAt_of_spent starts bytes_eq faults_eq rooms_pos position

theorem reachesEnd_iff (keepsTo : KeepsTo read hasOutlook) (starts : hasOutlook reader outlook)
    {rooms : Nat → Nat} (rooms_pos : ∀ position, 0 < rooms position)
    (faults_eq : outlook.faults = []) {payload : ByteString} :
    ReachesEnd read reader rooms payload ↔ outlook.failure = none ∧ outlook.bytes = payload := by
  constructor
  · rintro ⟨count, returned_eq, _, answer_eq⟩
    rcases keepsTo.exists_left starts rooms count with ⟨left, hasLeft, failure_eq, bytes_eq, _⟩
    rcases keepsTo _ left (rooms count) hasLeft with ⟨next, step, _⟩
    have left_eq := (step.answer_eq_end_iff (rooms_pos count)).mp answer_eq
    subst left_eq
    refine ⟨failure_eq.symm, ?_⟩
    rw [bytes_eq, returned_eq, List.append_nil]
  · rintro ⟨noFailure, rfl⟩
    rcases keepsTo.exists_finish starts rooms_pos with ⟨finish, returned_eq, raised_eq, _, final⟩
    refine ⟨finish, returned_eq, ?_, ?_⟩
    · rw [raised_eq, faults_eq]
      rfl
    · rw [final finish (Nat.le_refl finish), Outlook.finalAnswer, noFailure]

theorem failsAfter (keepsTo : KeepsTo read hasOutlook) {payload : ByteString} {error : StreamError}
    (starts : hasOutlook reader ⟨payload, [], some error⟩) {rooms : Nat → Nat}
    (rooms_pos : ∀ position, 0 < rooms position) :
    FailsAfter read reader rooms payload error :=
  keepsTo.exists_finish starts rooms_pos

end KeepsTo

end SealedStream

end KeyCustody

import KeyCustody.Proofs.Collector
import Mathlib.Data.List.DropRight
import Mathlib.Data.List.Induction

/-!
# What a collector has gathered

A collector is used in any order: pieces are given to it, a key is rebuilt, it is emptied. What it
holds follows from the pieces that it was given since it was last emptied: it holds those of the
right size, each where it first came, until there are as many as are needed. So neither a repeated
piece nor one of another size ever takes the place of a genuine one.
-/

namespace KeyCustody

namespace Collector

/-- What a collector can be asked for. -/
inductive Request where
  | collect (piece : KeyPiece)
  | reconstruct
  | reset

namespace Request

def isReset : Request → Bool
  | reset => true
  | _ => false

/-- The piece that a request gives to the collector. -/
def piece? : Request → Option KeyPiece
  | collect piece => some piece
  | _ => none

end Request

/-- The answer to a request: an error as callers see it, or the rebuilt key if one is asked for. -/
def answer (collector : Collector) : Request → Except CustodyError (Option ByteString)
  | .collect piece =>
    match collector.collect piece with
    | .ok _ => .ok none
    | .error error => .error error.toCustodyError
  | .reconstruct =>
    match collector.reconstruct with
    | .ok key => .ok (some key)
    | .error error => .error error.toCustodyError
  | .reset => .ok none

/-- The collector after a request. One that fails leaves it as it is. -/
def after (collector : Collector) : Request → Collector
  | .collect piece =>
    match collector.collect piece with
    | .ok collecting => collecting
    | .error _ => collector
  | .reconstruct => collector
  | .reset => collector.reset

def afterAll (collector : Collector) (requests : List Request) : Collector :=
  requests.foldl after collector

/-- The pieces that the requests gave to the collector since they last emptied it. -/
def givenSinceReset (requests : List Request) : List KeyPiece :=
  (requests.rtakeWhile fun request => !request.isReset).filterMap Request.piece?

/-- The pieces of the right size, each where it first came. -/
def distinctPieces (given : List KeyPiece) : List KeyPiece :=
  (given.filter fun piece => piece.size = rootKeyPieceSize).eraseDups

theorem givenSinceReset_append_reset (earlier : List Request) :
    givenSinceReset (earlier ++ [.reset]) = [] := by
  rw [givenSinceReset, List.rtakeWhile_concat_neg _ _ _ (by simp [Request.isReset])]
  rfl

theorem givenSinceReset_append {request : Request} (notReset : request.isReset = false)
    (earlier : List Request) :
    givenSinceReset (earlier ++ [request]) = givenSinceReset earlier ++ request.piece?.toList := by
  rw [givenSinceReset, List.rtakeWhile_concat_pos _ _ _ (by simp [notReset]),
    List.filterMap_append, ← givenSinceReset]
  cases request <;> rfl

theorem distinctPieces_append_of_wrongSize {piece : KeyPiece}
    (wrongSize : piece.size ≠ rootKeyPieceSize) (given : List KeyPiece) :
    distinctPieces (given ++ [piece]) = distinctPieces given := by
  rw [distinctPieces, List.filter_append, List.filter_singleton, decide_eq_false wrongSize,
    cond_false, List.append_nil, ← distinctPieces]

theorem distinctPieces_append {piece : KeyPiece} (size_eq : piece.size = rootKeyPieceSize)
    (given : List KeyPiece) :
    distinctPieces (given ++ [piece]) =
      if piece ∈ distinctPieces given then distinctPieces given
      else distinctPieces given ++ [piece] := by
  unfold distinctPieces
  rw [List.filter_append, List.filter_singleton, decide_eq_true size_eq, cond_true,
    List.eraseDups_append]
  generalize given.filter _ = sized
  by_cases already : piece ∈ sized
  · rw [if_pos (List.mem_eraseDups.mpr already)]
    simp [List.removeAll, already]
  · rw [if_neg (mt List.mem_eraseDups.mp already)]
    simp [List.removeAll, already, List.eraseDups_cons]

/-- Offering a piece to a collector that holds the first of the different pieces leaves it with the
first of the different pieces. -/
theorem held_withPiece {collector : Collector} {distinct : List KeyPiece}
    (held_eq : collector.held = distinct.take collector.threshold.toNat) (piece : KeyPiece) :
    (collector.withPiece piece).held =
      (if piece ∈ distinct then distinct else distinct ++ [piece]).take
        collector.threshold.toNat := by
  by_cases room : distinct.length < collector.threshold.toNat
  · rw [List.take_of_length_le (Nat.le_of_lt room)] at held_eq
    have notFull : ¬collector.isFull = true := by
      rw [isFull_iff, held_eq]
      omega
    by_cases already : piece ∈ distinct
    · rw [withPiece, if_pos (Or.inr (held_eq ▸ already)), if_pos already, held_eq,
        List.take_of_length_le (Nat.le_of_lt room)]
    · rw [withPiece, if_neg (by simp [notFull, held_eq, already]), if_neg already,
        List.take_of_length_le (by rw [List.length_append]; exact room)]
      exact congrArg (· ++ [piece]) held_eq
  · have full : collector.isFull = true := by
      rw [isFull_iff, held_eq, List.length_take]
      omega
    rw [withPiece_of_isFull full, held_eq]
    split
    · rfl
    · rw [List.take_append_of_le_length (Nat.le_of_not_lt room)]

/-- A piece of another size is refused, and any other is offered. -/
theorem after_collect (collector : Collector) (piece : KeyPiece) :
    collector.after (.collect piece) =
      if piece.size = rootKeyPieceSize then collector.withPiece piece else collector := by
  rw [after, collect_eq]
  by_cases size_eq : piece.size = rootKeyPieceSize
  · rw [if_neg (not_not_intro size_eq), if_pos size_eq]
    by_cases full : collector.isFull = true
    · rw [if_pos full, withPiece_of_isFull full]
    · rw [if_neg full]
  · rw [if_pos size_eq, if_neg size_eq]

theorem step_after (collector : Collector) (request : Request) :
    collector.Step request.piece? (collector.after request) := by
  cases request with
  | collect piece =>
      rw [after_collect]
      split
      · rename_i size_eq
        exact .offered rfl size_eq
      · exact .kept
  | reconstruct => exact .kept
  | reset => exact .emptied

theorem afterAll_append_singleton (collector : Collector) (earlier : List Request)
    (request : Request) :
    collector.afterAll (earlier ++ [request]) = (collector.afterAll earlier).after request :=
  List.foldl_concat ..

theorem wellFormed_afterAll {collector : Collector} (wellFormed : collector.WellFormed)
    (requests : List Request) : (collector.afterAll requests).WellFormed := by
  induction requests using List.reverseRecOn with
  | nil => exact wellFormed
  | append_singleton earlier request ih =>
      rw [afterAll_append_singleton]
      exact (step_after _ request).wellFormed ih

@[simp]
theorem threshold_afterAll (collector : Collector) (requests : List Request) :
    (collector.afterAll requests).threshold = collector.threshold := by
  induction requests using List.reverseRecOn with
  | nil => rfl
  | append_singleton earlier request ih =>
      rw [afterAll_append_singleton]
      exact (step_after _ request).threshold_eq.trans ih

/-- A collector holds the first of the different pieces that it was given since it was emptied. -/
theorem held_afterAll (threshold : UInt8) (requests : List Request) :
    ((empty threshold).afterAll requests).held =
      (distinctPieces (givenSinceReset requests)).take threshold.toNat := by
  induction requests using List.reverseRecOn with
  | nil => exact List.take_nil.symm
  | append_singleton earlier request ih =>
      rw [afterAll_append_singleton]
      have threshold_eq : ((empty threshold).afterAll earlier).threshold = threshold :=
        threshold_afterAll _ earlier
      generalize (empty threshold).afterAll earlier = collector at ih threshold_eq ⊢
      subst threshold_eq
      cases request with
      | collect piece =>
          rw [after_collect, givenSinceReset_append rfl]
          by_cases size_eq : piece.size = rootKeyPieceSize
          · rw [if_pos size_eq, held_withPiece ih, ← distinctPieces_append size_eq]
            rfl
          · rw [if_neg size_eq, ih, ← distinctPieces_append_of_wrongSize size_eq]
            rfl
      | reconstruct =>
          rw [givenSinceReset_append rfl]
          exact ih.trans (by simp [Request.piece?])
      | reset =>
          rw [givenSinceReset_append_reset]
          exact List.take_nil.symm

/-- A collector takes any piece of the right size until it has enough, those that it holds already
without any effect. -/
theorem WellFormed.answer_collect {collector : Collector} (wellFormed : collector.WellFormed)
    (piece : KeyPiece) :
    collector.answer (.collect piece) =
      if piece.size ≠ 33 then
        .error (.invalidInput s!"key piece is {piece.size} bytes, expected 33")
      else if collector.held.length = collector.threshold.toNat then
        .error (.conflict s!"already holding {collector.held.length} key pieces")
      else .ok none := by
  have isFull_iff_eq :
      collector.isFull = true ↔ collector.held.length = collector.threshold.toNat := by
    have := wellFormed.length_le
    rw [isFull_iff]
    omega
  rw [answer, collect_eq]
  by_cases size_eq : piece.size = rootKeyPieceSize
  · have size_eq_33 : piece.size = 33 := size_eq
    rw [if_neg (not_not_intro size_eq), if_neg (not_not_intro size_eq_33)]
    by_cases full : collector.isFull = true
    · rw [if_pos full, if_pos (isFull_iff_eq.mp full)]
      rfl
    · rw [if_neg full, if_neg (mt isFull_iff_eq.mpr full)]
  · have size_ne_33 : piece.size ≠ 33 := size_eq
    have shown : toString rootKeyPieceSize = "33" := by decide
    rw [if_pos size_eq, if_pos size_ne_33]
    simp only [CollectError.toCustodyError, shown, String.append_assoc]
    rfl

theorem after_of_answer_error {collector : Collector} {request : Request} {error : CustodyError}
    (failed : collector.answer request = .error error) : collector.after request = collector := by
  cases request with
  | collect piece =>
      rw [answer] at failed
      rw [after]
      split at failed
      · cases failed
      · rfl
  | reconstruct => rfl
  | reset => cases failed

theorem answer_reconstruct (collector : Collector) :
    collector.answer .reconstruct =
      if collector.held.length < collector.threshold.toNat then
        .error (.notReady
          s!"collected {collector.held.length} of {collector.threshold} root key pieces")
      else
        match KeyPiece.combine collector.held with
        | .ok key => .ok (some key)
        | .error error => .error (.invalidInput error.message) := by
  rw [answer, reconstruct]
  by_cases full : collector.isFull = true
  · rw [if_pos full, if_neg (Nat.not_lt.mpr ((isFull_iff _).mp full))]
    cases KeyPiece.combine collector.held <;> rfl
  · rw [if_neg full, if_pos (Nat.lt_of_not_le (mt (isFull_iff _).mpr full))]
    rfl

/-- However a new collector was used, it holds the first of the different pieces of the right size
that it was given since it was last emptied, so these are different pieces of the right size and no
more than are needed. It refuses pieces of another size at any time and all others once it holds
enough, and gives a key only then; neither what it refuses nor rebuilding a key changes what it
holds. -/
theorem gathers_first_distinct (threshold : UInt8) (requests : List Request) :
    let collector := (empty threshold).afterAll requests
    collector.held = (distinctPieces (givenSinceReset requests)).take threshold.toNat ∧
      collector.held.Nodup ∧
      (∀ piece ∈ collector.held, piece.size = 33) ∧
      collector.held.length ≤ threshold.toNat ∧
      (∀ piece, collector.answer (.collect piece) =
        if piece.size ≠ 33 then
          .error (.invalidInput s!"key piece is {piece.size} bytes, expected 33")
        else if collector.held.length = threshold.toNat then
          .error (.conflict s!"already holding {collector.held.length} key pieces")
        else .ok none) ∧
      (∀ piece error, collector.answer (.collect piece) = .error error →
        collector.after (.collect piece) = collector) ∧
      collector.after .reconstruct = collector ∧
      collector.answer .reconstruct =
        if collector.held.length < threshold.toNat then
          .error (.notReady s!"collected {collector.held.length} of {threshold} root key pieces")
        else
          match KeyPiece.combine collector.held with
          | .ok key => .ok (some key)
          | .error error => .error (.invalidInput error.message) := by
  intro collector
  have wellFormed : collector.WellFormed := wellFormed_afterAll (wellFormed_empty threshold) requests
  have threshold_eq : collector.threshold = threshold := threshold_afterAll _ requests
  have collect_answer := wellFormed.answer_collect
  have reconstruct_answer := collector.answer_reconstruct
  rw [threshold_eq] at collect_answer reconstruct_answer
  refine ⟨held_afterAll threshold requests, wellFormed.nodup, wellFormed.size_eq, ?_,
    collect_answer, fun _ _ => after_of_answer_error, rfl, reconstruct_answer⟩
  exact threshold_eq ▸ wellFormed.length_le

end Collector

end KeyCustody
